import BuildConfig.Files.Path
import BuildConfig.Proofs.Text.Lines
import Mathlib.Data.List.Basic
import Mathlib.Data.List.TakeWhile

namespace BuildConfig
namespace Path

open Text

-- The segments that come before those of a path that is joined to `base`.
def stem (base : String) : List (List Char) :=
  if base = "" then []
  else if base.toList.getLast? = some '/' then (base.toList.splitOn '/').dropLast
  else base.toList.splitOn '/'

variable {base path : String} {cs : List Char} {pieces front back : List (List Char)}

theorem splitOn_join (h : ¬isAbsolute path) :
    (join base path).toList.splitOn '/' = stem base ++ path.toList.splitOn '/' := by
  rw [join, stem]
  by_cases hb : base = ""
  case pos => rw [if_pos (.inr hb), if_pos hb, List.nil_append]
  case neg =>
    rw [if_neg (not_or.mpr ⟨h, hb⟩), if_neg hb]
    by_cases hl : base.toList.getLast? = some '/'
    case pos =>
      obtain ⟨ended, he⟩ := List.getLast?_eq_some_iff.mp hl
      rw [if_pos hl, if_pos hl, String.toList_append, he, List.append_assoc, List.singleton_append]
      rw [List.splitOn_append_cons_self, List.splitOn_append_cons_self, List.splitOn_nil,
        List.dropLast_concat]
    case neg =>
      rw [if_neg hl, if_neg hl, String.toList_append, String.toList_append, List.append_assoc]
      exact List.splitOn_append_cons_self _ _

-- A slash at the end of a path leaves an empty piece behind.
theorem splitOn_eq_stem (hb : base ≠ "") :
    base.toList.splitOn '/' = stem base ∨ base.toList.splitOn '/' = stem base ++ [[]] := by
  rw [stem, if_neg hb]
  split_ifs with hl
  case neg => exact .inl rfl
  case pos =>
    obtain ⟨ended, he⟩ := List.getLast?_eq_some_iff.mp hl
    right
    rw [he, List.splitOn_append_cons_self, List.splitOn_nil, List.dropLast_concat]

theorem isAbsolute_join (h : ¬isAbsolute path) : isAbsolute (join base path) = isAbsolute base := by
  rw [join]
  by_cases hb : base = ""
  case pos =>
    rw [if_pos (.inr hb), hb, Bool.eq_false_iff.mpr h]
    rfl
  case neg =>
    have hn : base.toList ≠ [] := mt String.toList_eq_nil_iff.mp hb
    rw [if_neg (not_or.mpr ⟨h, hb⟩), isAbsolute, isAbsolute]
    split
    all_goals
      simp only [String.toList_append, List.append_assoc]
      rw [List.head?_append_of_ne_nil _ hn]

theorem exists_join_eq_append (base path : String) : ∃ front, join base path = front ++ path := by
  rw [join]
  split
  case isTrue => exact ⟨"", String.empty_append.symm⟩
  case isFalse =>
    split
    case isTrue  => exact ⟨base, rfl⟩
    case isFalse => exact ⟨base ++ "/", rfl⟩

-- The first segment of a path that is not empty is its root or the start of a name.
theorem exists_segment_ne_empty (hn : path ≠ "") (ha : ¬isAbsolute path) :
    ∃ segment ∈ segments path, segment ≠ "" := by
  cases hc : path.toList with
  | nil => exact absurd (String.toList_eq_nil_iff.mp hc) hn
  | cons c cs =>
    have hs : ¬(c == '/') := fun hs => ha (by simp [isAbsolute, hc, beq_iff_eq.mp hs])
    obtain ⟨first, others, hp⟩ := List.exists_cons_of_ne_nil (List.splitOn_ne_nil '/' cs)
    refine ⟨String.ofList (c :: first), ?_, fun he => ?_⟩
    · rw [segments, hc, List.splitOn_cons_eq_if_modifyHead, if_neg hs, hp]
      exact List.mem_cons_self
    · have := congrArg String.toList he
      simp at this

theorem eq_of_isIdle {piece : List Char} (h : isIdle piece) :
    String.ofList piece = "" ∨ String.ofList piece = "." := by
  rcases of_decide_eq_true h with rfl | rfl
  · exact .inl rfl
  · exact .inr rfl

-- A text that falls into pieces can be cut between any two of them.
theorem exists_cut {sep : Char} (h : cs.splitOn sep = front ++ back) (hf : front ≠ [])
    (hb : back ≠ []) :
    ∃ before after, cs = before ++ sep :: after ∧ before.splitOn sep = front ∧
      after.splitOn sep = back := by
  have hm : ∀ piece ∈ front ++ back, sep ∉ piece := fun _ hp => not_mem_of_mem_splitOn (h ▸ hp)
  have ⟨hmf, hmb⟩ := List.forall_mem_append.mp hm
  have hsf := List.splitOn_intercalate sep hmf hf
  have hsb := List.splitOn_intercalate sep hmb hb
  refine ⟨_, _, ?_, hsf, hsb⟩
  rw [← @List.intercalate_splitOn _ cs _ _ sep, h, ← hsf, ← hsb, ← List.splitOn_append_cons_self,
    List.intercalate_splitOn, hsf, hsb]

-- No separator ends a text of which the last piece is not empty.
theorem getLast?_of_splitOn {sep : Char} (h : (cs.splitOn sep).getLast? ≠ some []) :
    cs ≠ [] ∧ cs.getLast? ≠ some sep := by
  constructor
  case left =>
    rintro rfl
    exact h rfl
  case right =>
    intro hl
    obtain ⟨ended, rfl⟩ := List.getLast?_eq_some_iff.mp hl
    simp [List.splitOn_append_cons_self] at h

-- What is left when the end of a list is dropped as long as it has a property.
theorem exists_run_of_dropWhile {α : Type} {p : α → Bool} {l rest : List α}
    (h : l.reverse.dropWhile p = rest) :
    ∃ run, l = rest.reverse ++ run ∧ (∀ x ∈ run, p x) ∧ ∀ x ∈ rest.head?, p x = false := by
  refine ⟨(l.reverse.takeWhile p).reverse, ?_, ?_, fun x hx => ?_⟩
  · rw [← h, ← List.reverse_append, List.takeWhile_append_dropWhile, List.reverse_reverse]
  · exact fun x hx => List.mem_takeWhile_imp (List.mem_reverse.mp hx)
  · have hd := List.head?_dropWhile_not p l.reverse
    rwa [h, hx] at hd

inductive Starts : List Char → List Char → List Char → Prop
  | root {body} : Starts ('/' :: body) ['/'] body
  | here : Starts ['.'] ['.'] []
  | below {body} : Starts ('.' :: '/' :: body) ['.'] ('/' :: body)
  | name {body} (h : body.head? ≠ some '/') : Starts body [] body

theorem starts_splitStart (cs : List Char) : Starts cs (splitStart cs).1 (splitStart cs).2 := by
  unfold splitStart
  split
  case h_1 => exact .root
  case h_2 => exact .here
  case h_3 => exact .below
  case h_4 h _ _ =>
    refine .name fun hs => ?_
    obtain ⟨rest, rfl⟩ := List.head?_eq_some_iff.mp hs
    exact h rest rfl

theorem Starts.append {start body : List Char} (h : Starts cs start body) : cs = start ++ body := by
  cases h <;> rfl

-- A path leads from its parent on by one name. Whatever else is in it stays in a directory.
structure IsParent (path base : String) : Prop where
  absolute : isAbsolute base = isAbsolute path
  pieces   : ∃ idle name trailing, path.toList.splitOn '/' = stem base ++ idle ++ name :: trailing ∧
    (∀ piece ∈ idle, isIdle piece) ∧ ∀ piece ∈ trailing, isIdle piece

section Parent
variable {start body name : List Char} {kept idle trailing : List (List Char)}

-- What is kept goes on in the path with a slash.
theorem isParent_of_kept (hc : path.toList = start ++ body)
    (hp : body.splitOn '/' = kept ++ (idle ++ name :: trailing)) (hi : ∀ piece ∈ idle, isIdle piece)
    (ht : ∀ piece ∈ trailing, isIdle piece) (hk : kept ≠ [])
    (hl : ∀ piece ∈ kept.getLast?, isIdle piece = false) :
    IsParent path (String.ofList (start ++ ['/'].intercalate kept)) := by
  obtain ⟨before, after, rfl, rfl, ha⟩ := exists_cut hp hk (by simp)
  have hl : (before.splitOn '/').getLast? ≠ some [] := fun he => by
    have := hl [] he
    contradiction
  have ⟨hn, hs⟩ := getLast?_of_splitOn hl
  rw [List.intercalate_splitOn]
  have hb : (String.ofList (start ++ before)).toList = start ++ before := String.toList_ofList
  have hne : start ++ before ≠ [] := List.append_ne_nil_of_right_ne_nil _ hn
  rw [← List.append_assoc] at hc
  constructor
  case absolute =>
    rw [isAbsolute, isAbsolute, hb, hc, List.head?_append_of_ne_nil _ hne]
  case pieces =>
    refine ⟨idle, name, trailing, ?_, hi, ht⟩
    rw [stem, if_neg (fun he => hne (by rw [← hb, he]; rfl)), hb,
      if_neg (by rwa [List.getLast?_append_of_ne_nil _ hn]), hc, List.splitOn_append_cons_self, ha,
      List.append_assoc]

theorem exists_idle_of_nil_cons (h : [] :: pieces = idle ++ name :: trailing)
    (hn : isIdle name = false) : ∃ further, idle = [] :: further ∧
      pieces = further ++ name :: trailing := by
  cases idle with
  | nil =>
    cases h
    contradiction
  | cons piece further =>
    cases h
    exact ⟨further, rfl, rfl⟩

theorem splitOn_slash : ('/' :: cs).splitOn '/' = [] :: cs.splitOn '/' := by
  rw [List.splitOn_cons_eq_if_modifyHead, if_pos (by rfl)]

theorem splitOn_dot_slash : ('.' :: '/' :: cs).splitOn '/' = ['.'] :: cs.splitOn '/' :=
  have hd : '/' ∉ ['.'] := by decide
  List.splitOn_append_cons_self_of_not_mem hd cs

-- Where nothing is kept, the parent is where the path starts.
theorem isParent_of_start (hs : Starts path.toList start body)
    (hp : body.splitOn '/' = idle ++ name :: trailing) (hi : ∀ piece ∈ idle, isIdle piece)
    (hn : isIdle name = false) (ht : ∀ piece ∈ trailing, isIdle piece) :
    IsParent path (String.ofList start) := by
  generalize hc : path.toList = cs at hs
  cases hs with
  | root =>
    refine ⟨by simp [isAbsolute, hc], idle, name, trailing, ?_, hi, ht⟩
    rw [hc, splitOn_slash, hp]
    rfl
  | here =>
    obtain ⟨further, _, hf⟩ := exists_idle_of_nil_cons hp hn
    simp at hf
  | below =>
    obtain ⟨further, rfl, hf⟩ := exists_idle_of_nil_cons (splitOn_slash.symm.trans hp) hn
    refine ⟨by simp [isAbsolute, hc], further, name, trailing, ?_, ?_, ht⟩
    · rw [hc, splitOn_dot_slash, hf]
      rfl
    · exact (List.forall_mem_cons.mp hi).right
  | name h =>
    refine ⟨by simp [isAbsolute, hc, h], idle, name, trailing, ?_, hi, ht⟩
    rw [hc, hp]
    rfl

theorem forall_isIdle_of_start (hs : Starts cs start body)
    (hb : ∀ piece ∈ body.splitOn '/', isIdle piece) : ∀ piece ∈ cs.splitOn '/', isIdle piece := by
  cases hs with
  | root =>
    rw [splitOn_slash]
    exact List.forall_mem_cons.mpr ⟨by decide, hb⟩
  | here => decide
  | below =>
    rw [splitOn_slash] at hb
    rw [splitOn_dot_slash]
    exact List.forall_mem_cons.mpr ⟨by decide, (List.forall_mem_cons.mp hb).right⟩
  | name => exact hb

-- A path with no name in it that starts with a dot.
theorem isParent_of_idle (hs : Starts path.toList ['.'] body)
    (hi : ∀ piece ∈ path.toList.splitOn '/', isIdle piece) : IsParent path "" := by
  obtain ⟨name, trailing, hp⟩ := List.exists_cons_of_ne_nil (List.splitOn_ne_nil '/' path.toList)
  refine ⟨?_, [], name, trailing, hp, nofun, ?_⟩
  · rw [isAbsolute, isAbsolute, hs.append]
    rfl
  · exact (List.forall_mem_cons.mp (hp ▸ hi)).right

end Parent

-- Only a path that goes on by no name has no parent.
theorem parent?_cases (path : String) :
    (parent? path = none ∧ ∀ piece ∈ path.toList.splitOn '/', isIdle piece) ∨
      ∃ base, parent? path = some base ∧ IsParent path base := by
  have hs := starts_splitStart path.toList
  rw [parent?]
  generalize splitStart path.toList = parts at hs
  obtain ⟨start, body⟩ := parts
  dsimp only at hs ⊢
  split
  case h_1 hb =>
    have hb : ∀ piece ∈ body.splitOn '/', isIdle piece := fun piece hp =>
      List.dropWhile_eq_nil_iff.mp hb piece (List.mem_reverse.mpr hp)
    have hi := forall_isIdle_of_start hs hb
    by_cases hd : start = ['.']
    case pos => exact .inr ⟨"", if_pos hd, isParent_of_idle (hd ▸ hs) hi⟩
    case neg => exact .inl ⟨if_neg hd, hi⟩
  case h_2 name before hb =>
    obtain ⟨trailing, hp, ht, hn⟩ := exists_run_of_dropWhile hb
    obtain ⟨idle, hk, hi, hl⟩ := exists_run_of_dropWhile (p := isIdle) (l := before.reverse) rfl
    rw [List.reverse_reverse] at hk hl
    rw [List.reverse_cons, hk, List.append_assoc, List.append_assoc, List.singleton_append] at hp
    refine .inr ⟨_, rfl, ?_⟩
    by_cases he : (before.dropWhile isIdle).reverse = []
    case pos =>
      rw [he] at hp ⊢
      rw [List.intercalate_nil, List.append_nil]
      exact isParent_of_start hs hp hi (hn name rfl) ht
    case neg =>
      refine isParent_of_kept hs.append hp hi ht he ?_
      rwa [List.getLast?_reverse]

end Path
end BuildConfig
