import BuildConfig.Proofs.Document.Concatenation
import BuildConfig.Proofs.Text.Padding

namespace BuildConfig
namespace Document

open Text

variable {s : Scope} {n k : Nat} {content padded : String} {line : List Char}
variable {first second : List Line} {ls₁ ls₂ : List (List Char)}

theorem Line.ofChars_of_padded {line padded : List Char} (h : Padded line padded) :
    Line.ofChars padded = Line.ofChars line := by
  rw [← Line.ofChars_trimEnd, h.trimEnd_eq, Line.ofChars_trimEnd]

theorem map_ofChars_of_padded (h : List.Forall₂ Padded ls₁ ls₂) :
    ls₂.map Line.ofChars = ls₁.map Line.ofChars := by
  induction h with
  | nil           => rfl
  | cons h _ ih => rw [List.map_cons, List.map_cons, Line.ofChars_of_padded h, ih]

-- A byte order mark is in front of the first line.
theorem no_mark_iff (h : splitLines content = line :: ls₁) :
    content.toList.head? ≠ some '\ufeff' ↔ line.head? ≠ some '\ufeff' :=
  not_congr (head?_of_splitOn_eq_cons h (by decide))

-- Blanks are no byte order mark, so none gets to the front of a text with the blanks behind its lines.
theorem no_mark_of_padded (h : content.toList.head? ≠ some '\ufeff')
    (hp : List.Forall₂ Padded (splitLines content) (splitLines padded)) :
    padded.toList.head? ≠ some '\ufeff' := by
  generalize hs₁ : splitLines content = ls₁ at hp
  generalize hs₂ : splitLines padded = ls₂ at hp
  cases hp with
  | nil       => exact absurd hs₁ (List.splitOn_ne_nil _ _)
  | cons hl _ =>
    have hm := (no_mark_iff hs₁).mp h
    exact (no_mark_iff hs₂).mpr (mt (hl.head?_iff (by decide)).mp hm)

theorem read_of_padded (h : content.toList.head? ≠ some '\ufeff')
    (hp : List.Forall₂ Padded (splitLines content) (splitLines padded)) :
    read padded = read content := by
  rw [read_of_no_mark h, read_of_no_mark (no_mark_of_padded h hp), map_ofChars_of_padded hp]

theorem read_mark (h : content.toList.head? ≠ some '\ufeff') :
    read ("\ufeff" ++ content) = read content := by
  have hm : ("\ufeff" ++ content).toList = '\ufeff' :: content.toList := String.toList_append
  rw [read, hm, read, Document.lines, Document.lines, dropMark_eq_self h]
  rfl

theorem read_final_newline : read (content ++ "\n") = read content := by
  have hn : (content ++ "\n").toList = content.toList ++ ['\n'] := String.toList_append
  rw [read, hn, lines_append_newline]
  exact readLines_append_ignorable

-- Of what is read only the numbers change, and only those of the lines behind the one that is inserted.
theorem readLines_insert_ignorable :
    readLines s n (first ++ .ignorable :: second) =
      renumber (fun m => if n + first.length ≤ m then m + 1 else m)
        (readLines s n (first ++ second)) := by
  let f (m : Nat) := if n + first.length ≤ m then m + 1 else m
  change _ = renumber f _
  have hb {m : Nat} (hm : m ∈ lineNumbers (readLines s n first)) : f m = m :=
    if_neg (by have := mem_lineNumbers_readLines hm; omega)
  rw [readLines_append, readLines_append, readLines_ignorable]
  cases hr : readLines s n first with
  | error e =>
    rw [hr] at hb
    exact (renumber_eq_self fun _ => hb).symm
  | ok document =>
    rw [hr] at hb
    have hd : document.map (·.renumber f) = document := Except.ok.inj (renumber_eq_self fun _ => hb)
    have hf : f (n + first.length) = n + first.length + 1 := if_pos le_rfl
    have hs : readLines (s.after first) (n + first.length + 1) second =
        renumber f (readLines (s.after first) (n + first.length) second) := by
      rw [← hf]
      refine readLines_renumber fun m hm => ?_
      simp only [f, if_pos hm, if_pos (Nat.le_succ_of_le hm)]
    change (readLines _ (n + first.length + 1) second).map (document ++ ·) =
      renumber f ((readLines _ (n + first.length) second).map (document ++ ·))
    rw [renumber_map_append, hd, hs]

theorem no_mark_of_isIgnorable (h : isIgnorable line) : line.head? ≠ some '\ufeff' := by
  intro hc
  obtain ⟨rest, rfl⟩ := List.head?_eq_some_iff.mp hc
  have hs : trimStart ('\ufeff' :: rest) = '\ufeff' :: rest :=
    trimStart_eq_self_iff.mpr (by simpa using (by decide : isBlank '\ufeff' = false))
  simp [isIgnorable, hs] at h

theorem read_insert (h : content.toList.head? ≠ some '\ufeff')
    (hk : k ≤ (splitLines content).length) (hl : '\n' ∉ line) (hi : isIgnorable line) :
    read (joinLines ((splitLines content).insertIdx k line)) =
      renumber (fun n => if k < n then n + 1 else n) (read content) := by
  obtain ⟨before, after, hs, hb, hm⟩ := List.exists_of_modifyTailIdx (List.cons line) hk
  have hj := (splitLines_insert hk hl).trans hm
  generalize joinLines ((splitLines content).insertIdx k line) = inserted at hj
  have hn : inserted.toList.head? ≠ some '\ufeff' := by
    cases before with
    | nil      => exact (no_mark_iff hj).mpr (no_mark_of_isIgnorable hi)
    | cons _ _ => exact (no_mark_iff hj).mpr ((no_mark_iff hs).mp h)
  rw [read_of_no_mark hn, read_of_no_mark h, hj, hs, List.map_append, List.map_append, List.map_cons]
  rw [Line.ofChars_eq_ignorable_iff.mpr hi, readLines_insert_ignorable, List.length_map, hb]
  exact renumber_congr fun m _ => by simp only [Nat.add_comm 1, Nat.lt_iff_add_one_le]

-- What a document says does not depend on its layout: not on a byte order mark in front of it, not on
-- blanks at the ends of its lines, and not on how the last line ends. A further line that is blank or a
-- comment only counts, wherever it stands.
theorem read_layout {content : String} (h : content.toList.head? ≠ some '\ufeff') :
    read ("\ufeff" ++ content) = read content ∧
      (∀ pad : Nat → List Char, (∀ i, ∀ c ∈ pad i, isBlank c ∧ c ≠ '\n') →
        read (joinLines ((splitLines content).mapIdx fun i line => line ++ pad i)) = read content) ∧
      read (withReturns content) = read content ∧
      read (content ++ "\n") = read content ∧
      ∀ k ≤ (splitLines content).length, ∀ line, '\n' ∉ line → isIgnorable line →
        read (joinLines ((splitLines content).insertIdx k line)) =
          renumber (fun n => if k < n then n + 1 else n) (read content) :=
  ⟨read_mark h, fun _ hp => read_of_padded h (forall₂_padded_joinLines hp),
    read_of_padded h forall₂_padded_withReturns, read_final_newline,
    fun _ hk _ hl hi => read_insert h hk hl hi⟩

-- A value on two lines. A comment between them does not keep the second from going on with the first.
def twoLineContent : String :=
  "[net]\na = 1\n  b"

theorem read_layout_twoLineContent :
    let document : Document := [⟨"net", "a", "1", 2⟩, ⟨"net", "a", "b", 3⟩]
    read "\ufeff[net]\na = 1\n  b" = .ok document ∧
      read "[net]\u3000\x0b\na = 1\u3000\x0b\n  b\u3000\x0b" = .ok document ∧
      read "[net]\r\na = 1\r\n  b" = .ok document ∧
      read "[net]\na = 1\n  b\n" = .ok document ∧
      read "[net]\na = 1\n\t# c\n  b" = .ok [⟨"net", "a", "1", 2⟩, ⟨"net", "a", "b", 4⟩] := by
  intro document
  have h : twoLineContent.toList.head? ≠ some '\ufeff' := by decide +kernel
  have hr : read twoLineContent = .ok document := by decide +kernel
  have hpad : joinLines ((splitLines twoLineContent).mapIdx
      fun _ line => line ++ ['\u3000', '\x0b']) =
        "[net]\u3000\x0b\na = 1\u3000\x0b\n  b\u3000\x0b" := by
    decide +kernel
  have hreturns : withReturns twoLineContent = "[net]\r\na = 1\r\n  b" := by decide +kernel
  have hinsert : joinLines ((splitLines twoLineContent).insertIdx 2 "\t# c".toList) =
      "[net]\na = 1\n\t# c\n  b" := by
    decide +kernel
  obtain ⟨hm, hp, hc, hn, hi⟩ := read_layout h
  have hp := hp (fun _ => ['\u3000', '\x0b']) fun _ =>
    List.forall_mem_cons.mpr ⟨by decide, List.forall_mem_singleton.mpr (by decide)⟩
  have hi := hi 2 (by decide +kernel) "\t# c".toList (by decide) (by decide)
  rw [hpad] at hp
  rw [hinsert] at hi
  exact ⟨hm.trans hr, hp.trans hr, (hreturns ▸ hc).trans hr, hn.trans hr, hi.trans (hr ▸ rfl)⟩

end Document
end BuildConfig
