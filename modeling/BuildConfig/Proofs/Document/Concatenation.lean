import BuildConfig.Proofs.Document.Numbering
import BuildConfig.Proofs.Text.Lines

namespace BuildConfig
namespace Document

open Text

variable {s s₁ s₂ : Scope} {n : Nat} {cs front rest body : List Char}
variable {lines : List Line} {document : Document} {result : Except Error Document}

-- The first line of a text that is neither blank nor a comment.
def leading? (content : String) : Option (List Char) :=
  (splitLines content).find? fun line => !isIgnorable line

theorem isIgnorable_trimEnd : isIgnorable (trimEnd cs) = isIgnorable cs := by
  rw [isIgnorable, isIgnorable, ← trimEnd_trimStart]
  by_cases h : trimEnd (trimStart cs) = []
  case neg => rw [head?_trimEnd h]
  case pos =>
    -- What is left of the line starts with no blank, so it is empty if all of it is blank.
    have hs : trimStart cs = [] := by
      cases hc : trimStart cs with
      | nil => rfl
      | cons c rest =>
        have hb : isBlank c := trimEnd_eq_nil_iff.mp h c (hc ▸ List.mem_cons_self)
        have hn : isBlank c = false := @head?_trimStart cs c (by rw [hc]; rfl)
        simp [hb] at hn
    rw [h, hs]

theorem Line.ofChars_eq_ignorable_iff : Line.ofChars cs = .ignorable ↔ isIgnorable cs := by
  rw [← Line.ofChars_trimEnd, Line.ofChars_eq trimEnd_trimEnd, isIgnorable_trimEnd]
  split <;> simp_all

theorem Line.ofChars_bracket : Line.ofChars ('[' :: cs) = .text false ('[' :: trimEnd cs) := by
  have hb : isBlank '[' = false := by decide
  have ht : trim ('[' :: cs) = '[' :: trimEnd cs := by
    rw [trim, trimStart, List.dropWhile_cons_of_neg (by simp [hb]), trimEnd_cons, if_neg (by simp [hb])]
  rw [Line.ofChars, ht]
  simp [hb]

-- A heading in the first column is read alike wherever it stands.
theorem Scope.read_bracket :
    s₁.read n (.text false ('[' :: body)) = s₂.read n (.text false ('[' :: body)) := by
  rcases forall_or_splitsAt (· = ']') body with hc | ⟨inner, after, hs⟩
  · have hc : ']' ∉ body := fun hm => by simpa using hc _ hm
    have hb : Statement.ofBody ('[' :: body) = .error .unterminatedHeading :=
      Statement.ofHeading_of_not_mem hc
    rw [read_of_fault (by simp) hb, read_of_fault (by simp) hb]
  · have hb : Statement.ofBody ('[' :: body) = .ok (.heading (String.ofList (trim inner))) :=
      Statement.ofHeading_of_splitsAt hs
    rw [read_of_heading (by simp) hb, read_of_heading (by simp) hb]

theorem readLines_ignorable :
    readLines s n (.ignorable :: lines) = readLines s (n + 1) lines := by
  rw [readLines_cons]
  change (readLines s (n + 1) lines).map ([] ++ ·) = _
  cases readLines s (n + 1) lines <;> rfl

-- Lines that begin with a heading leave nothing to those in front of them. The induction goes over the
-- lines that are skipped.
theorem readLines_of_heading_first {ls : List (List Char)}
    (h : ∀ line ∈ ls.find? fun line => !isIgnorable line, line.head? = some '[') :
    readLines s₁ n (ls.map Line.ofChars) = readLines s₂ n (ls.map Line.ofChars) := by
  induction ls generalizing n with
  | nil => rfl
  | cons line ls ih =>
    rw [List.map_cons]
    by_cases hi : isIgnorable line
    case pos =>
      rw [List.find?_cons_of_neg (by simp [hi])] at h
      rw [Line.ofChars_eq_ignorable_iff.mpr hi, readLines_ignorable, readLines_ignorable, ih h]
    case neg =>
      rw [List.find?_cons_of_pos (by simp [hi])] at h
      obtain ⟨rest, rfl⟩ := List.head?_eq_some_iff.mp (h line rfl)
      rw [Line.ofChars_bracket, readLines_cons, readLines_cons, @Scope.read_bracket s₁ s₂]

theorem dropMark_eq_self (h : cs.head? ≠ some '\ufeff') : dropMark cs = cs := by
  unfold dropMark
  split
  case h_1 => exact absurd rfl h
  case h_2 => rfl

theorem lines_of_no_mark (h : cs.head? ≠ some '\ufeff') :
    Document.lines cs = (cs.splitOn '\n').map Line.ofChars := by
  rw [Document.lines, dropMark_eq_self h]

theorem dropMark_append_newline :
    dropMark (front ++ '\n' :: rest) = dropMark front ++ '\n' :: rest := by
  cases front with
  | nil => rfl
  | cons c front =>
    by_cases hc : c = '\ufeff'
    case pos => subst hc; rfl
    case neg => rw [dropMark_eq_self (by simpa using hc), dropMark_eq_self (by simpa using hc)]

theorem count_dropMark : (dropMark cs).count '\n' = cs.count '\n' := by
  unfold dropMark
  split
  case h_1 => simp
  case h_2 => rfl

-- A line feed ends the lines of the text in front of it.
theorem lines_append_newline :
    Document.lines (front ++ '\n' :: rest) =
      Document.lines front ++ (rest.splitOn '\n').map Line.ofChars := by
  rw [Document.lines, dropMark_append_newline, List.splitOn_append_cons_self, List.map_append]
  rfl

theorem length_lines : (Document.lines cs).length = cs.count '\n' + 1 := by
  rw [Document.lines, List.length_map, length_splitOn, count_dropMark]

theorem readLines_append_ignorable :
    readLines s n (lines ++ [.ignorable]) = readLines s n lines := by
  rw [readLines_append]
  cases readLines s n lines with
  | error e     => rfl
  | ok document => exact congrArg Except.ok (List.append_nil document)

-- What stands in front is read first, and the rest from the line on that comes next.
theorem exists_read_append {front : String} (hf : front.toList.getLast? = some '\n') :
    ∃ s : Scope, ∀ back : String,
      read (front ++ back) =
        (read front).bind fun document =>
          (readLines s (1 + lineCount front) ((splitLines back).map Line.ofChars)).map
            (document ++ ·) := by
  obtain ⟨ended, he⟩ := List.getLast?_eq_some_iff.mp hf
  have hc : lineCount front = (Document.lines ended).length := by
    rw [lineCount, he, length_lines, List.count_append, List.count_singleton_self]
  have hr : read front = readLines {} 1 (Document.lines ended) := by
    rw [read, he, lines_append_newline]
    exact readLines_append_ignorable
  refine ⟨({} : Scope).after (Document.lines ended), fun back => ?_⟩
  rw [hr, hc, ← readLines_append, splitLines, ← lines_append_newline, read, String.toList_append, he]
  rw [List.append_assoc, List.singleton_append]

theorem read_of_no_mark {content : String} (h : content.toList.head? ≠ some '\ufeff') :
    read content = readLines {} 1 ((splitLines content).map Line.ofChars) := by
  rw [read, lines_of_no_mark h, splitLines]

-- A text that begins with a heading is read behind another one as it is by itself.
theorem readLines_of_heading {back : String} (hb : back.toList.head? ≠ some '\ufeff')
    (hh : ∀ line ∈ leading? back, line.head? = some '[') :
    readLines s (1 + n) ((splitLines back).map Line.ofChars) = renumber (· + n) (read back) := by
  rw [readLines_of_heading_first hh, read_of_no_mark hb]
  exact readLines_renumber (f := (· + n)) fun m _ => Nat.succ_add m n

theorem map_append_of_line_lt (h : ∀ m ∈ lineNumbers result, n < m) :
    (∃ further, result.map (document ++ ·) = .ok (document ++ further) ∧ ∀ e ∈ further, n < e.line) ∨
      ∃ e, result.map (document ++ ·) = .error e ∧ n < e.line := by
  cases result with
  | error e    => exact .inr ⟨e, rfl, h e.line (List.mem_singleton_self _)⟩
  | ok further => exact .inl ⟨further, rfl, fun e he => h e.line (List.mem_map_of_mem he)⟩

-- A text is read on from where the text in front of it ends, and by itself if it begins with a heading.
theorem read_append {front back : String} (hf : front.toList.getLast? = some '\n')
    (hb : back.toList.head? ≠ some '\ufeff') :
    (∀ e, read front = .error e → read (front ++ back) = .error e) ∧
      ∀ document, read front = .ok document →
        ((∃ further, read (front ++ back) = .ok (document ++ further) ∧
            ∀ e ∈ further, lineCount front < e.line) ∨
          ∃ e, read (front ++ back) = .error e ∧ lineCount front < e.line) ∧
        ((∀ line ∈ leading? back, line.head? = some '[') →
          (∀ further, read back = .ok further →
            read (front ++ back) =
              .ok (document ++ further.map (·.renumber (· + lineCount front)))) ∧
          ∀ e, read back = .error e →
            read (front ++ back) = .error (e.renumber (· + lineCount front))) := by
  obtain ⟨s, hs⟩ := exists_read_append hf
  constructor
  case left =>
    intro e he
    rw [hs, he]
    rfl
  case right =>
    intro document hd
    have hs : read (front ++ back) =
        (readLines s (1 + lineCount front) ((splitLines back).map Line.ofChars)).map
          (document ++ ·) := by
      rw [hs, hd]
      rfl
    refine ⟨?further, fun hh => ?heading⟩
    case further =>
      rw [hs]
      apply map_append_of_line_lt
      intro m hm
      have := (mem_lineNumbers_readLines hm).left
      omega
    case heading =>
      rw [hs, readLines_of_heading hb hh]
      refine ⟨fun further h => ?_, fun e h => ?_⟩
      all_goals
        rw [h]
        rfl

-- A value on two lines, and a text that begins with a comment. Its heading is in the first column.
def netContent : String :=
  "\ufeff[net]\na = 1\n\tb\n"

def diskContent : String :=
  "\n\t; c\n[disk]\n\td: 2"

theorem read_append_netContent :
    read (netContent ++ diskContent) =
        .ok [⟨"net", "a", "1", 2⟩, ⟨"net", "a", "b", 3⟩, ⟨"disk", "d", "2", 7⟩] ∧
      read (netContent ++ "[]\n=") = .error ⟨5, .emptyKey⟩ := by
  have hf : netContent.toList.getLast? = some '\n' := by decide +kernel
  have hd : read netContent = .ok [⟨"net", "a", "1", 2⟩, ⟨"net", "a", "b", 3⟩] := by decide +kernel
  have hn : lineCount netContent = 3 := by decide +kernel
  constructor
  case left =>
    have hb : diskContent.toList.head? ≠ some '\ufeff' := by decide +kernel
    have hh : ∀ line ∈ leading? diskContent, line.head? = some '[' := by decide +kernel
    have hr : read diskContent = .ok [⟨"disk", "d", "2", 4⟩] := by decide +kernel
    have hl := (((read_append hf hb).right _ hd).right hh).left _ hr
    rwa [hn] at hl
  case right =>
    have hb : "[]\n=".toList.head? ≠ some '\ufeff' := by decide +kernel
    have hh : ∀ line ∈ leading? "[]\n=", line.head? = some '[' := by decide +kernel
    have hr : read "[]\n=" = .error ⟨2, .emptyKey⟩ := by decide +kernel
    have hl := (((read_append hf hb).right _ hd).right hh).right _ hr
    rwa [hn] at hl

end Document
end BuildConfig
