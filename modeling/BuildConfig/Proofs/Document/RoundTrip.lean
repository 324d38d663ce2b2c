import BuildConfig.Proofs.Document.Reader
import BuildConfig.Proofs.Text.Lines
import Mathlib.Tactic.MkIffOfInductiveProp

namespace BuildConfig
namespace Document

open Text

@[mk_iff]
structure IsHeading (cs : List Char) : Prop where
  oneLine   : '\n' ∉ cs
  trimmed   : Trimmed cs
  noBracket : ']' ∉ cs

@[mk_iff]
structure IsKey (cs : List Char) : Prop where
  oneLine   : '\n' ∉ cs
  trimmed   : Trimmed cs
  nonempty  : cs ≠ []
  undivided : '=' ∉ cs ∧ ':' ∉ cs
  start     : cs.head? ≠ some '[' ∧ cs.head? ≠ some ';' ∧ cs.head? ≠ some '#'

@[mk_iff]
structure IsValue (cs : List Char) : Prop where
  oneLine  : '\n' ∉ cs
  trimmed  : Trimmed cs
  unmarked : Unmarked cs

instance : DecidablePred IsHeading :=
  fun cs => decidable_of_iff' _ (isHeading_iff cs)

instance : DecidablePred IsKey :=
  fun cs => decidable_of_iff' _ (isKey_iff cs)

instance : DecidablePred IsValue :=
  fun cs => decidable_of_iff' _ (isValue_iff cs)

-- What an entry says, without the line on which it stands.
structure Triple where
  heading : String
  key : String
  value : String
  deriving DecidableEq

namespace Triple

@[mk_iff]
structure WellFormed (t : Triple) : Prop where
  heading : IsHeading t.heading.toList
  key     : IsKey t.key.toList
  value   : IsValue t.value.toList

instance : DecidablePred WellFormed :=
  fun t => decidable_of_iff' _ (wellFormed_iff t)

def onLine (t : Triple) (number : Nat) : Entry :=
  ⟨t.heading, t.key, t.value, number⟩

-- Every triple is written under a heading of its own.
def lines (t : Triple) : List String :=
  ["[" ++ t.heading ++ "]", t.key ++ "=" ++ t.value]

end Triple

def triples (document : Document) : List Triple :=
  document.map fun e => ⟨e.heading, e.key, e.value⟩

def print (ts : List Triple) : String :=
  Text.unlines (ts.flatMap (·.lines))

section Image
variable {content : List Char} {i : Nat}

theorem newline_not_mem_lineAt : '\n' ∉ lineAt (texts content) i := by
  by_cases h : i < (texts content).length
  case neg => simp [lineAt, Nat.le_of_not_lt h]
  case pos =>
    have hm : lineAt (texts content) i ∈ texts content := by simp [lineAt, h]
    obtain ⟨l, hl, he⟩ := List.mem_map.mp hm
    rw [← he]
    exact fun hn => not_mem_of_mem_splitOn hl (trimEnd_isPrefix.subset hn)

theorem newline_not_mem_trimStart : '\n' ∉ trimStart (lineAt (texts content) i) :=
  fun h => newline_not_mem_lineAt (trimStart_isSuffix.subset h)

theorem SplitsAt.before_isPrefix {p : Char → Bool} {text before after : List Char}
    (h : SplitsAt p text before after) : before <+: text := by
  obtain ⟨c, _, rfl⟩ := h.joined
  exact List.prefix_append before (c :: after)

theorem SplitsAt.after_isSuffix {p : Char → Bool} {text before after : List Char}
    (h : SplitsAt p text before after) : after <:+ text := by
  obtain ⟨c, _, rfl⟩ := h.joined
  exact ⟨before ++ [c], by simp⟩

theorem isHeading_of_above {name : String} (h : HeadingAbove (texts content) i name) :
    IsHeading name.toList := by
  cases h with
  | none => exact ⟨by simp, ⟨by simp, by simp⟩, by simp⟩
  | some _ hn =>
    obtain ⟨inner, after, hs, rfl⟩ := hn
    rw [String.toList_ofList]
    refine ⟨fun hm => ?_, trimmed_trim, fun hm => ?_⟩
    · have := hs.before_isPrefix.subset (trim_isInfix.subset hm)
      exact newline_not_mem_trimStart (List.mem_of_mem_tail this)
    · simpa using hs.first _ (trim_isInfix.subset hm)

theorem isDelimiter_eq_false_iff {cs : List Char} :
    (∀ c ∈ cs, isDelimiter c = false) ↔ '=' ∉ cs ∧ ':' ∉ cs := by
  simp only [isDelimiter, decide_eq_false_iff_not, not_or]
  constructor
  · intro h
    exact ⟨fun hm => (h _ hm).left rfl, fun hm => (h _ hm).right rfl⟩
  · intro ⟨h₁, h₂⟩ c hc
    exact ⟨ne_of_mem_of_not_mem hc h₁, ne_of_mem_of_not_mem hc h₂⟩

theorem isKey_of_pair {before after : List Char} (hr : role (texts content) i = .pair)
    (hf : ∀ f, ¬Faulty (texts content) i f)
    (hs : SplitsAt isDelimiter (trimStart (lineAt (texts content) i)) before after) :
    IsKey (trim before) where
  oneLine hm := newline_not_mem_trimStart (hs.before_isPrefix.subset (trim_isInfix.subset hm))
  trimmed := trimmed_trim
  nonempty hn := hf _ (.emptyKey hr hs (trim_eq_nil_iff.mp hn))
  undivided := isDelimiter_eq_false_iff.mp fun c hc => hs.first c (trim_isInfix.subset hc)
  start := by
    have hn : trim before ≠ [] := fun hn => hf _ (.emptyKey hr hs (trim_eq_nil_iff.mp hn))
    have ⟨hi, _, hb⟩ := role_eq_pair_iff.mp hr
    rw [head?_trim_of_isPrefix hs.before_isPrefix hn]
    refine ⟨hb, fun hc => ?_, fun hc => ?_⟩ <;> simp [isIgnorable, hc] at hi

theorem isValue_of_valueText {cs : List Char} {value : String} (hl : '\n' ∉ cs)
    (h : ValueText cs value) : IsValue value.toList := by
  obtain ⟨kept, hk, rfl⟩ := h
  rw [String.toList_ofList]
  exact ⟨fun hm => hl (hk.start.subset (trim_isInfix.subset hm)), trimmed_trim,
    hk.unmarked.of_isInfix trim_isInfix⟩

end Image

theorem wellFormed_of_read {content : String} {document : Document}
    (h : read content = .ok document) : ∀ t ∈ triples document, t.WellFormed := by
  have ⟨hf, hl⟩ := read_eq_ok_iff.mp h
  intro t ht
  obtain ⟨e, he, rfl⟩ := List.mem_map.mp ht
  cases hl.entries e he with
  | pair hr hs hh hv =>
    refine ⟨isHeading_of_above hh, ?_, isValue_of_valueText (fun hm => ?_) hv⟩
    · exact String.toList_ofList ▸ isKey_of_pair hr (hf _) hs
    · exact newline_not_mem_trimStart (hs.after_isSuffix.subset hm)
  | continuation _ hj hs hh hv =>
    refine ⟨isHeading_of_above hh, ?_, isValue_of_valueText newline_not_mem_trimStart hv⟩
    exact String.toList_ofList ▸ isKey_of_pair hj.holds (hf _) hs

section Printed
variable {s : Scope} {n : Nat} {h k v : List Char}

theorem Line.ofChars_of_trimmed {cs : List Char} (ht : Trimmed cs) (hn : cs ≠ [])
    (hc : cs.head? ≠ some ';' ∧ cs.head? ≠ some '#') : Line.ofChars cs = .text false cs := by
  have hs : trimStart cs = cs := trimStart_eq_self_iff.mpr ht.first
  obtain ⟨c, rest, rfl⟩ := List.exists_cons_of_ne_nil hn
  have hb := ht.first c rfl
  have hc : c ≠ ';' ∧ c ≠ '#' := by simpa using hc
  rw [Line.ofChars_eq (trimEnd_eq_self_iff.mpr ht.last), hs]
  simp [isIgnorable, isIndented, hs, hb, hc]

theorem read_heading (hh : IsHeading h) :
    s.read n (Line.ofChars ('[' :: h ++ [']'])) = .ok ({ heading := String.ofList h }, []) := by
  have ht : Trimmed ('[' :: h ++ [']']) := by
    have hb : isBlank '[' = false ∧ isBlank ']' = false := by decide
    refine ⟨by simpa using hb.left, ?_⟩
    rw [List.getLast?_append_of_ne_nil _ (by simp)]
    simpa using hb.right
  have hs : SplitsAt (· = ']') (h ++ [']']) h [] :=
    ⟨fun c hc => by simpa using ne_of_mem_of_not_mem hc hh.noBracket, ']', by simp, rfl⟩
  have hb : Statement.ofBody ('[' :: h ++ [']']) = .ok (.heading (String.ofList h)) := by
    rw [Statement.ofBody_of_bracket rfl]
    have := Statement.ofHeading_of_splitsAt hs
    rwa [trim_eq_self_iff.mpr hh.trimmed] at this
  rw [Line.ofChars_of_trimmed ht (by simp) (by simp), Scope.read_of_heading (by simp) hb]

theorem read_pair (hk : IsKey k) (hv : IsValue v) :
    s.read n (Line.ofChars (k ++ '=' :: v)) =
      .ok ({ s with pending := some (String.ofList k) },
        [⟨s.heading, String.ofList k, String.ofList v, n⟩]) := by
  have hh : (k ++ '=' :: v).head? = k.head? := List.head?_append_of_ne_nil _ hk.nonempty
  have ht : Trimmed (k ++ '=' :: v) := by
    refine ⟨hh ▸ hk.trimmed.first, ?_⟩
    rw [List.getLast?_append_of_ne_nil _ (by simp)]
    cases v with
    | nil => simpa using (by decide : isBlank '=' = false)
    | cons c v => exact hv.trimmed.last
  have hs : SplitsAt isDelimiter (k ++ '=' :: v) k v :=
    ⟨isDelimiter_eq_false_iff.mpr hk.undivided, '=', by decide, rfl⟩
  have htk : trim k = k := trim_eq_self_iff.mpr hk.trimmed
  have hb : Statement.ofBody (k ++ '=' :: v) = .ok (.pair (String.ofList k) (String.ofList v)) := by
    rw [Statement.ofBody_of_no_bracket (hh ▸ hk.start.left)]
    rw [Statement.ofPair_of_splitsAt hs (htk.symm ▸ hk.nonempty), htk]
    rw [valueText_eq_self hv.unmarked hv.trimmed]
  rw [Line.ofChars_of_trimmed ht (by simp) (hh ▸ hk.start.right)]
  exact Scope.read_of_pair (by simp) hb

theorem Triple.WellFormed.oneLine {t : Triple} (h : t.WellFormed) :
    ∀ line ∈ t.lines, '\n' ∉ line.toList := by
  simp [Triple.lines, h.heading.oneLine, h.key.oneLine, h.value.oneLine]

theorem Triple.toList_lines {t : Triple} :
    t.lines.map String.toList =
      ['[' :: t.heading.toList ++ [']'], t.key.toList ++ '=' :: t.value.toList] := by
  simp [Triple.lines]

theorem readLines_triple {t : Triple} {further : List Line} (ht : t.WellFormed) :
    readLines s n (t.lines.map (Line.ofChars ·.toList) ++ further) =
      (readLines ⟨t.heading, some t.key⟩ (n + 2) further).map (t.onLine (n + 1) :: ·) := by
  have hl : t.lines.map (Line.ofChars ·.toList) = (t.lines.map String.toList).map Line.ofChars := by
    rw [List.map_map]
    rfl
  rw [hl, Triple.toList_lines, List.map_cons, List.map_singleton]
  rw [List.cons_append, List.singleton_append, readLines_cons, read_heading ht.heading]
  simp only [readLines_cons, read_pair ht.key ht.value, String.ofList_toList]
  cases readLines ⟨t.heading, some t.key⟩ (n + 2) further <;> rfl

-- The induction is on the triples, under whatever heading and from whatever line they are read.
theorem readLines_triples {ts : List Triple} (h : ∀ t ∈ ts, t.WellFormed) :
    readLines s n ((ts.flatMap (·.lines)).map (Line.ofChars ·.toList) ++ [.ignorable]) =
      .ok (ts.mapIdx fun i t => t.onLine (n + 2 * i + 1)) := by
  induction ts generalizing s n with
  | nil => rfl
  | cons t ts ih =>
    have ⟨ht, h⟩ := List.forall_mem_cons.mp h
    rw [List.flatMap_cons, List.map_append, List.append_assoc, readLines_triple ht, ih h]
    rw [List.mapIdx_cons]
    simp [Except.map, Nat.mul_add, Nat.add_assoc, Nat.add_comm 2]

theorem lines_print {ts : List Triple} (h : ∀ t ∈ ts, t.WellFormed) :
    lines (print ts).toList =
      (ts.flatMap (·.lines)).map (Line.ofChars ·.toList) ++ [.ignorable] := by
  have hm : dropMark (print ts).toList = (print ts).toList := by
    cases ts with
    | nil => rfl
    | cons t ts => simp [print, Triple.lines, toList_unlines_cons, dropMark]
  have ho : ∀ line ∈ ts.flatMap (·.lines), '\n' ∉ line.toList := by
    intro line hl
    have ⟨t, ht, hl⟩ := List.mem_flatMap.mp hl
    exact (h t ht).oneLine line hl
  rw [lines, hm, print, splitOn_unlines ho, List.map_append, List.map_map]
  rfl

theorem read_print {ts : List Triple} (h : ∀ t ∈ ts, t.WellFormed) :
    read (print ts) = .ok (ts.mapIdx fun i t => t.onLine (2 * (i + 1))) := by
  have hn (i : Nat) : 1 + 2 * i + 1 = 2 * (i + 1) := by omega
  rw [read, lines_print h, readLines_triples h]
  simp only [hn]

end Printed

theorem triples_mapIdx_onLine {ts : List Triple} {number : Nat → Nat} :
    triples (ts.mapIdx fun i t => t.onLine (number i)) = ts :=
  List.ext_getElem (by simp [triples]) (by simp [triples, Triple.onLine])

-- What a document says is a list of well-formed triples, and every such list can be written down
-- and is read back in order, each triple on the second of its two lines.
theorem read_image_print (content : String) (ts : List Triple) :
    (∀ document, read content = .ok document → ∀ t ∈ triples document, t.WellFormed) ∧
      ((∀ t ∈ ts, t.WellFormed) →
        read (print ts) = .ok (ts.mapIdx fun i t => t.onLine (2 * (i + 1)))) ∧
      ∀ document, read content = .ok document →
        ∃ again, read (print (triples document)) = .ok again ∧ triples again = triples document := by
  refine ⟨fun _ => wellFormed_of_read, read_print, fun document h => ?_⟩
  exact ⟨_, read_print (wellFormed_of_read h), triples_mapIdx_onLine⟩

-- Marks and brackets may stand where they cannot be mistaken for anything else.
def oddTriples : List Triple :=
  [⟨"", "a ;b", ";x = [y]: #z"⟩, ⟨"[net ;1", "k#[", ""⟩]

-- A text with a byte order mark, a value on two lines, and a comment behind the second.
def oddContent : String :=
  "\ufeffa ;b: 1=2;3\r\n\n\t[x] ; y\n# c\n[ [net ] ]\n\tk =\n"

def oddDocument : Document :=
  [⟨"", "a ;b", "1=2;3", 1⟩, ⟨"", "a ;b", "[x]", 3⟩, ⟨"[net", "k", "", 6⟩]

theorem read_image_print_odd :
    ((∀ t ∈ oddTriples, t.WellFormed) ∧
      read (print oddTriples) = .ok [⟨"", "a ;b", ";x = [y]: #z", 2⟩, ⟨"[net ;1", "k#[", "", 4⟩]) ∧
    read oddContent = .ok oddDocument ∧ (∀ t ∈ triples oddDocument, t.WellFormed) ∧
      ∃ again, read (print (triples oddDocument)) = .ok again ∧
        triples again = triples oddDocument := by
  have ⟨hw, hp, ha⟩ := read_image_print oddContent oddTriples
  have ht : ∀ t ∈ oddTriples, t.WellFormed := by decide +kernel
  have hc : read oddContent = .ok oddDocument := by decide +kernel
  exact ⟨⟨ht, hp ht⟩, hc, hw _ hc, ha _ hc⟩

end Document
end BuildConfig
