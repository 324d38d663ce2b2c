import BuildConfig.Text.Blank

namespace BuildConfig
namespace Text

-- No line contains the character at which the lines were split.
theorem not_mem_of_mem_splitOn {sep : Char} {cs l : List Char} (h : l ∈ cs.splitOn sep) :
    sep ∉ l := by
  induction cs generalizing l with
  | nil => simp_all
  | cons c cs ih =>
    rw [List.splitOn_cons_eq_if_modifyHead] at h
    split at h
    case isTrue =>
      rcases List.mem_cons.mp h with rfl | h
      · simp
      · exact ih h
    case isFalse hc =>
      have ⟨first, others, hs⟩ := List.exists_cons_of_ne_nil (List.splitOn_ne_nil sep cs)
      rw [hs] at h ih
      rcases List.mem_cons.mp h with rfl | h
      · have hne : sep ≠ c := fun he => hc (by simp [he])
        exact List.not_mem_cons_of_ne_of_not_mem hne (ih List.mem_cons_self)
      · exact ih (List.mem_cons_of_mem _ h)

-- Every separator begins another line.
theorem length_splitOn {sep : Char} {cs : List Char} :
    (cs.splitOn sep).length = cs.count sep + 1 := by
  induction cs with
  | nil => rfl
  | cons c cs ih =>
    rw [List.splitOn_cons_eq_if_modifyHead, List.count_cons]
    cases c == sep <;> simp [ih]

-- A text starts as its first line does.
theorem head?_of_splitOn_eq_cons {sep : Char} {cs first : List Char} {others : List (List Char)}
    {c : Char} (h : cs.splitOn sep = first :: others) (hc : c ≠ sep) :
    cs.head? = some c ↔ first.head? = some c := by
  cases cs with
  | nil =>
    cases h
    rfl
  | cons d ds =>
    rw [List.splitOn_cons_eq_if_modifyHead] at h
    split at h
    case isTrue hd =>
      cases h
      exact iff_of_false (by simpa [beq_iff_eq.mp hd] using hc.symm) nofun
    case isFalse =>
      obtain ⟨first', others', hs⟩ := List.exists_cons_of_ne_nil (List.splitOn_ne_nil sep ds)
      rw [hs] at h
      cases h
      simp

-- The lines of a text, and the text of lines. Nothing ends the last one.
def splitLines (text : String) : List (List Char) :=
  text.toList.splitOn '\n'

def joinLines (lines : List (List Char)) : String :=
  String.ofList (['\n'].intercalate lines)

theorem splitLines_joinLines {lines : List (List Char)} (hn : lines ≠ [])
    (h : ∀ line ∈ lines, '\n' ∉ line) : splitLines (joinLines lines) = lines := by
  rw [splitLines, joinLines, String.toList_ofList, List.splitOn_intercalate '\n' h hn]

-- A line that is inserted is a line of its own.
theorem splitLines_insert {text : String} {line : List Char} {k : Nat}
    (hk : k ≤ (splitLines text).length) (hl : '\n' ∉ line) :
    splitLines (joinLines ((splitLines text).insertIdx k line)) =
      (splitLines text).insertIdx k line := by
  have hm : line ∈ (splitLines text).insertIdx k line := (List.mem_insertIdx hk).mpr (.inl rfl)
  refine splitLines_joinLines (List.ne_nil_of_mem hm) fun l h => ?_
  rcases (List.mem_insertIdx hk).mp h with rfl | h
  · exact hl
  · exact not_mem_of_mem_splitOn h

-- How many lines a text has of which the last one is ended, too.
def lineCount (text : String) : Nat :=
  text.toList.count '\n'

theorem unlines_cons {line : String} {lines : List String} :
    unlines (line :: lines) = line ++ "\n" ++ unlines lines := by
  apply String.toList_injective
  simp [toList_unlines_cons]

theorem unlines_append {lines₁ lines₂ : List String} :
    unlines (lines₁ ++ lines₂) = unlines lines₁ ++ unlines lines₂ := by
  apply String.toList_injective
  simp [unlines]

-- Lines that are written one after the other are split again as they were.
theorem splitOn_unlines {lines : List String} (h : ∀ line ∈ lines, '\n' ∉ line.toList) :
    (unlines lines).toList.splitOn '\n' = lines.map String.toList ++ [[]] := by
  induction lines with
  | nil => rfl
  | cons line lines ih =>
    have ⟨hl, h⟩ := List.forall_mem_cons.mp h
    rw [toList_unlines_cons, List.splitOn_append_cons_self_of_not_mem hl, ih h]
    rfl

-- A text that falls into exactly these lines, each of which is ended by a line feed.
def HasLines (text : String) (lines : List String) : Prop :=
  text.toList.splitOn '\n' = lines.map String.toList ++ [[]]

theorem hasLines_unlines {lines : List String} (h : ∀ line ∈ lines, '\n' ∉ line.toList) :
    HasLines (unlines lines) lines :=
  splitOn_unlines h

theorem HasLines.unique {text : String} {lines₁ lines₂ : List String} (h₁ : HasLines text lines₁)
    (h₂ : HasLines text lines₂) : lines₁ = lines₂ := by
  have h : lines₁.map String.toList = lines₂.map String.toList :=
    List.append_cancel_right (h₁.symm.trans h₂)
  exact (List.map_inj_right fun _ _ => String.toList_injective).mp h

end Text
end BuildConfig
