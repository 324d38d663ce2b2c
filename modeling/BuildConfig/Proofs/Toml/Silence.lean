import BuildConfig.Proofs.Text.Characters
import BuildConfig.Toml.Document
import Mathlib.Data.List.Forall2
import Mathlib.Data.List.ReduceOption

namespace BuildConfig
namespace Toml
namespace Reader

-- The reader gives `a` and leaves `rest` of the text.
def Takes {α : Type} (r : Reader α) (cs : List Char) (a : α) (rest : List Char) : Prop :=
  r cs = .ok (a, rest)

section
variable {α β : Type} {r : Reader α} {f : α → Reader β} {a : α} {b : β} {cs mid rest : List Char}

theorem takes_pure : (pure a : Reader α).Takes cs a cs :=
  rfl

theorem takes_get : (get : Reader (List Char)).Takes cs cs cs :=
  rfl

theorem Takes.bind (hr : r.Takes cs a mid) (hf : (f a).Takes mid b rest) :
    (r >>= f).Takes cs b rest := by
  change (r cs >>= fun s => f s.1 s.2) = _
  rw [hr]
  exact hf

theorem Takes.discard (h : r.Takes cs a rest) : (discard r).Takes cs () rest := by
  change (r cs >>= fun s => pure ((), s.2)) = _
  rw [h]
  rfl

theorem takes_peek? : peek?.Takes cs cs.head? cs :=
  rfl

theorem takes_chars {p : Char → Bool} {run : List Char} (h : Text.Run (p ·) cs run rest) :
    (chars p).Takes cs run rest := by
  have ⟨ht, hd⟩ := Text.Run.eq (fun _ => .rfl) h
  change Except.ok (cs.takeWhile p, cs.dropWhile p) = _
  rw [ht, hd]

theorem takes_skip? {text : List Char} : (skip? text).Takes (text ++ rest) true rest := by
  have hp : text.isPrefixOf (text ++ rest) := List.isPrefixOf_iff_prefix.mpr (List.prefix_append _ _)
  refine takes_get.bind ?_
  rw [if_pos hp, List.drop_left]
  rfl

theorem takes_skip?_of_not {text : List Char} (h : text.isPrefixOf cs = false) :
    (skip? text).Takes cs false cs := by
  refine takes_get.bind ?_
  rw [if_neg (Bool.eq_false_iff.mp h)]
  exact takes_pure

theorem takes_skip {what : String} {text : List Char} :
    (skip what text).Takes (text ++ rest) () rest :=
  takes_skip?.bind takes_pure

theorem takes_newline? : newline?.Takes ('\n' :: rest) true rest :=
  takes_skip?.bind takes_pure

theorem takes_spaces {run : List Char} (h : Text.Run (isSpace ·) cs run rest) :
    spaces.Takes cs () rest :=
  (takes_chars h).discard

theorem run_nil {p : Char → Prop} (h : ∀ c ∈ cs.head?, ¬p c) : Text.Run p cs [] cs :=
  ⟨rfl, nofun, h⟩

-- What is left of a line is nothing or a comment.
inductive Trails : List Char → Prop
  | nothing : Trails []
  | comment {text} (h : text.all isPlain) : Trails ('#' :: text)

instance : Decidable (Trails cs) :=
  match cs with
  | []        => .isTrue .nothing
  | c :: text =>
    decidable_of_iff (c = '#' ∧ text.all isPlain) <| by
      constructor
      case mp =>
        rintro ⟨rfl, h⟩
        exact .comment h
      case mpr =>
        intro h
        cases h with
        | comment h => exact ⟨rfl, h⟩

theorem takes_comment? (h : Trails cs) :
    ∃ b, comment?.Takes (cs ++ '\n' :: rest) b ('\n' :: rest) := by
  cases h with
  | nothing => exact ⟨false, (takes_skip?_of_not rfl).bind takes_pure⟩
  | @comment text h =>
    have hr : Text.Run (isPlain ·) (text ++ '\n' :: rest) text ('\n' :: rest) :=
      ⟨rfl, List.all_eq_true.mp h, fun c hc => by cases hc; decide⟩
    exact ⟨true, takes_skip?.bind ((takes_chars hr).discard.bind takes_pure)⟩

theorem takes_endOfLine (h : Trails cs) : endOfLine.Takes (cs ++ '\n' :: rest) () rest := by
  obtain ⟨b, hb⟩ := @takes_comment? cs rest h
  have hr : Text.Run (isSpace ·) (cs ++ '\n' :: rest) [] (cs ++ '\n' :: rest) :=
    run_nil (by cases h <;> exact fun c hc => by cases hc; decide)
  refine (takes_spaces hr).bind (hb.discard.bind (takes_get.bind (takes_newline?.bind ?_)))
  rw [if_neg (by simp)]
  exact takes_pure

theorem takes_many_nil {item? : Reader (Option α)} (h : item?.Takes cs none cs) :
    (many item?).Takes cs [] cs :=
  takes_get.bind (h.bind takes_pure)

theorem not_isSpace_of_isBare {c : Char} (h : isBare c) : ¬isSpace c := by
  intro hs
  rcases of_decide_eq_true hs with rfl | rfl <;> contradiction

section
variable {key : List Char} (hk : key ≠ []) (hb : key.all isBare)
include hk hb

-- A key without quotes goes on to the bracket.
theorem takes_keyPart : keyPart.Takes (key ++ ']' :: rest) key (']' :: rest) := by
  obtain ⟨c, key, rfl⟩ := List.exists_cons_of_ne_nil hk
  have hb := List.all_eq_true.mp hb
  have hc : isBare c := hb c List.mem_cons_self
  have hs : spaces.Takes (c :: key ++ ']' :: rest) () (c :: key ++ ']' :: rest) :=
    takes_spaces (run_nil fun d hd => by cases hd; exact not_isSpace_of_isBare hc)
  have ht : (spaces >>= fun _ => pure (c :: key) : Reader Key).Takes (']' :: rest) (c :: key) (']' :: rest) :=
    (takes_spaces (run_nil fun d hd => by cases hd; decide)).bind takes_pure
  have hk : (someChars "a key" isBare).Takes (c :: key ++ ']' :: rest) (c :: key) (']' :: rest) := by
    refine (takes_chars ⟨rfl, hb, fun d hd => by cases hd; decide⟩).bind ?_
    rw [if_neg (List.cons_ne_nil _ _)]
    exact takes_pure
  refine hs.bind (takes_peek?.bind ?_)
  dsimp only
  split
  case h_1 he =>
    cases he
    contradiction
  case h_2 he =>
    cases he
    contradiction
  case h_3 => exact hk.bind ht

theorem takes_keyPath : keyPath.Takes (key ++ ']' :: rest) ⟨[], key⟩ (']' :: rest) := by
  refine (takes_keyPart hk hb).bind ((takes_many_nil ?_).bind ?_)
  · exact (takes_skip?_of_not rfl).bind takes_pure
  · exact takes_pure

theorem takes_header (h : Trails cs) :
    statement?.header.Takes ('[' :: (key ++ ']' :: (cs ++ '\n' :: rest))) (.table ⟨[], key⟩) rest := by
  have hp : ['[', '['].isPrefixOf ('[' :: (key ++ ']' :: (cs ++ '\n' :: rest))) = false := by
    obtain ⟨c, key, rfl⟩ := List.exists_cons_of_ne_nil hk
    have hc : isBare c := List.all_eq_true.mp hb c List.mem_cons_self
    refine Bool.eq_false_iff.mpr fun hp => ?_
    have hp := (List.cons_prefix_cons.mp (List.isPrefixOf_iff_prefix.mp hp)).right
    obtain rfl : '[' = c := (List.cons_prefix_cons.mp hp).left
    contradiction
  refine (takes_skip?_of_not hp).bind ?_
  refine takes_skip.bind ((takes_keyPath hk hb).bind ?_)
  exact takes_skip.bind ((takes_endOfLine h).bind takes_pure)

end

end
end Reader

-- A line that gives nothing a value, and the key of the table that it opens if it is a heading.
inductive Silent : List Char → Option Key → Prop
  | remark {blanks text} (hb : ∀ c ∈ blanks, isSpace c) (ht : Reader.Trails text) :
    Silent (blanks ++ text) none
  | heading {key text} (hk : key ≠ []) (hb : key.all isBare) (ht : Reader.Trails text) :
    Silent ('[' :: (key ++ ']' :: text)) (some key)

-- What such a line says.
def Statement.opening : Option Key → Statement
  | none     => .blank
  | some key => .table ⟨[], key⟩

namespace Silent
open Reader
variable {line rest : List Char} {opened : Option Key} {lines : List (List Char)}
variable {openings : List (Option Key)}

theorem takes_statement? (h : Silent line opened) :
    statement?.Takes (line ++ '\n' :: rest) (some (.opening opened)) rest := by
  cases h with
  | @remark blanks text hb ht =>
    have hr : Text.Run (isSpace ·) (blanks ++ text ++ '\n' :: rest) blanks (text ++ '\n' :: rest) := by
      refine ⟨List.append_assoc _ _ _, hb, ?_⟩
      cases ht <;> exact fun c hc => by cases hc; decide
    refine (takes_spaces hr).bind (takes_peek?.bind ?_)
    cases ht with
    | nothing   => exact (takes_endOfLine .nothing).bind takes_pure
    | comment h => exact (takes_endOfLine (.comment h)).bind takes_pure
  | heading hk hb ht =>
    refine (takes_spaces (run_nil fun c hc => by cases hc; decide)).bind (takes_peek?.bind ?_)
    rw [List.cons_append, List.append_assoc, List.cons_append]
    exact (takes_header hk hb ht).bind takes_pure

-- Lines are read one after the other. Each of them has at least its line feed to be read.
theorem takes_collect {bound : Nat} (h : List.Forall₂ Silent lines openings)
    (hl : (lines.flatMap (· ++ ['\n'])).length < bound) :
    (collect statement? bound).Takes (lines.flatMap (· ++ ['\n'])) (openings.map .opening) [] := by
  induction h generalizing bound with
  | nil =>
    obtain ⟨bound, rfl⟩ := Nat.exists_eq_add_one_of_ne_zero (Nat.ne_zero_of_lt hl)
    rfl
  | cons h hs ih =>
    obtain ⟨bound, rfl⟩ := Nat.exists_eq_add_one_of_ne_zero (Nat.ne_zero_of_lt hl)
    rw [List.flatMap_cons, List.append_assoc, List.singleton_append] at hl ⊢
    rw [List.length_append, List.length_cons] at hl
    exact h.takes_statement?.bind ((ih (by omega)).bind takes_pure)

theorem takes_statements (h : List.Forall₂ Silent lines openings) :
    statements.Takes (lines.flatMap (· ++ ['\n'])) (openings.map .opening) [] := by
  have hm : ['\ufeff'].isPrefixOf (lines.flatMap (· ++ ['\n'])) = false := by
    cases h with
    | nil      => rfl
    | cons h _ =>
      cases h with
      | @remark blanks _ hb ht =>
        cases blanks with
        | nil       => cases ht <;> rfl
        | cons c cs => rcases of_decide_eq_true (hb c List.mem_cons_self) with rfl | rfl <;> rfl
      | heading => rfl
  refine (takes_skip?_of_not hm).discard.bind ?_
  exact (takes_get.bind (takes_collect h (Nat.lt_succ_self _))).bind (takes_get.bind takes_pure)

end Silent

section
variable {key : Key} {item : Item} {entries : Entries} {openings : List (Option Key)} {d : Draft}

theorem Entries.put_of_not_mem (h : key ∉ entries.map (·.1)) :
    entries.put key item = entries ++ [(key, item)] := by
  induction entries with
  | nil => rfl
  | cons e es ih =>
    have ⟨hk, h⟩ := not_or.mp (mt List.mem_cons.mpr h)
    rw [Entries.put, if_neg (Ne.symm hk), ih h, List.cons_append]

theorem Draft.add_table (h : key ∉ d.entries.map (·.1)) :
    d.add (.table ⟨[], key⟩) = .ok ⟨d.entries ++ [(key, .table .header [])], [key]⟩ := by
  have hl : d.entries.lookup key = none := by
    rw [List.lookup_eq_none_iff]
    intro e he
    have hk : key ≠ e.1 := fun hk => h (hk ▸ List.mem_map_of_mem he)
    simpa using hk
  have ho : d.entries.openTable [] key = .ok (d.entries ++ [(key, .table .header [])]) := by
    change Entries.openTable.place key .header d.entries = _
    rw [Entries.openTable.place, hl, ← Entries.put_of_not_mem h]
  rw [Draft.add, ho]
  rfl

-- Headings open empty tables as long as none of them is repeated.
theorem foldlM_add_opening (h : (d.entries.map (·.1) ++ openings.reduceOption).Nodup) :
    ∃ cursor, (openings.map .opening).foldlM Draft.add d =
      .ok ⟨d.entries ++ openings.reduceOption.map (·, .table .header []), cursor⟩ := by
  induction openings generalizing d with
  | nil => exact ⟨d.cursor, by simp [pure, Except.pure]⟩
  | cons opened openings ih =>
    rw [List.map_cons, List.foldlM_cons]
    cases opened with
    | none     => exact ih h
    | some key =>
      rw [List.reduceOption_cons_of_some] at h ⊢
      have hk : key ∉ d.entries.map (·.1) := fun hk =>
        (List.nodup_append.mp h).right.right key hk key List.mem_cons_self rfl
      obtain ⟨cursor, hc⟩ := @ih ⟨d.entries ++ [(key, .table .header [])], [key]⟩ (by simpa using h)
      refine ⟨cursor, ?_⟩
      rw [Statement.opening, Draft.add_table hk]
      exact hc.trans (by simp)

end

-- The document of such lines has an empty table for each of its headings.
theorem read_of_silent {lines : List (List Char)} {openings : List (Option Key)}
    (h : List.Forall₂ Silent lines openings) (hn : openings.reduceOption.Nodup) :
    read (lines.flatMap (· ++ ['\n'])) =
      .ok (openings.reduceOption.map (·, .table .header [])) := by
  have ht : StateT.run Reader.statements (lines.flatMap (· ++ ['\n'])) =
      .ok (openings.map .opening, []) :=
    Silent.takes_statements h
  obtain ⟨cursor, hd⟩ := @foldlM_add_opening openings {} hn
  rw [read, ht]
  change ((openings.map Statement.opening).foldlM Draft.add {} >>= fun d => pure d.entries) = _
  rw [hd]
  rfl

end Toml
end BuildConfig
