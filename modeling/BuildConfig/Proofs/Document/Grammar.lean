import BuildConfig.Document.Reader
import BuildConfig.Proofs.Document.Line

namespace BuildConfig
namespace Document

open Text

-- The lines of a text without the blanks at their ends. Positions count from zero.
def texts (content : List Char) : List (List Char) :=
  ((dropMark content).splitOn '\n').map trimEnd

def lineAt (ls : List (List Char)) (i : Nat) : List Char :=
  ls.getD i []

def isIgnorable (cs : List Char) : Bool :=
  (trimStart cs).head?.all fun c => c = ';' ∨ c = '#'

def isIndented (cs : List Char) : Bool :=
  cs.head?.any isBlank

-- What a line is in its document.
inductive Role
  | ignorable
  | continuation
  | heading
  | pair
  deriving DecidableEq

-- An indented line continues an entry if there is a pair before it under the same heading.
def role (ls : List (List Char)) (i : Nat) : Role :=
  if isIgnorable (lineAt ls i) then .ignorable
  else if isIndented (lineAt ls i) ∧
    ∃ j : Fin i, role ls j = .pair ∧ ∀ k : Fin i, j < k → role ls k ≠ .heading then .continuation
  else if (trimStart (lineAt ls i)).head? = some '[' then .heading
  else .pair
termination_by i

-- The last position before `i` with a property.
structure Latest (p : Nat → Prop) (i j : Nat) : Prop where
  lt    : j < i
  holds : p j
  last  : ∀ k, j < k → k < i → ¬p k

-- The name in a heading is what stands between its bracket and the first closing one.
def HeadingText (cs : List Char) (name : String) : Prop :=
  ∃ inner after, SplitsAt (· = ']') (trimStart cs).tail inner after ∧
    name = String.ofList (trim inner)

def ValueText (cs : List Char) (value : String) : Prop :=
  ∃ kept, Uncommented cs kept ∧ value = String.ofList (trim kept)

section
variable (ls : List (List Char)) (i : Nat)

-- The heading under which a line stands. Before the first heading it is empty.
inductive HeadingAbove : String → Prop
  | none (h : ∀ j < i, role ls j ≠ .heading) : HeadingAbove ""
  | some {j name} (hj : Latest (role ls · = .heading) i j) (hn : HeadingText (lineAt ls j) name) :
    HeadingAbove name

-- What can be wrong with a line.
inductive Faulty : Fault → Prop
  | unterminatedHeading (h : role ls i = .heading) (hc : ']' ∉ (trimStart (lineAt ls i)).tail) :
    Faulty .unterminatedHeading
  | missingDelimiter (h : role ls i = .pair)
    (hd : ∀ c ∈ trimStart (lineAt ls i), isDelimiter c = false) : Faulty .missingDelimiter
  | emptyKey {before after} (h : role ls i = .pair)
    (hs : SplitsAt isDelimiter (trimStart (lineAt ls i)) before after)
    (hb : ∀ c ∈ before, isBlank c) : Faulty .emptyKey

end

-- The entry that a pair gives, or one that continues the last pair before it.
inductive Gives (ls : List (List Char)) : Entry → Prop
  | pair {i before after heading value} (h : role ls i = .pair)
    (hs : SplitsAt isDelimiter (trimStart (lineAt ls i)) before after)
    (hh : HeadingAbove ls i heading) (hv : ValueText after value) :
    Gives ls ⟨heading, String.ofList (trim before), value, i + 1⟩
  | continuation {i j before after heading value} (h : role ls i = .continuation)
    (hj : Latest (role ls · = .pair) i j)
    (hs : SplitsAt isDelimiter (trimStart (lineAt ls j)) before after)
    (hh : HeadingAbove ls i heading) (hv : ValueText (trimStart (lineAt ls i)) value) :
    Gives ls ⟨heading, String.ofList (trim before), value, i + 1⟩

def Role.givesEntry (r : Role) : Bool :=
  r = .pair ∨ r = .continuation

-- The entries of a document, line by line.
structure Lists (ls : List (List Char)) (document : Document) : Prop where
  numbers : document.map (·.line) =
    ((List.range ls.length).filter fun i => (role ls i).givesEntry).map (· + 1)
  entries : ∀ e ∈ document, Gives ls e

-- The first line with a fault.
structure FirstFault (ls : List (List Char)) (e : Error) : Prop where
  faulty : ∃ i, e.line = i + 1 ∧ Faulty ls i e.fault
  first  : ∀ i, i + 1 < e.line → ∀ f, ¬Faulty ls i f

variable {ls : List (List Char)} {i j : Nat}

-- Whether a line stands after a pair of the same heading.
def InEntry (ls : List (List Char)) (i : Nat) : Prop :=
  ∃ j < i, role ls j = .pair ∧ ∀ k, j < k → k < i → role ls k ≠ .heading

theorem inEntry_iff :
    InEntry ls i ↔
      ∃ j : Fin i, role ls j = .pair ∧ ∀ k : Fin i, j < k → role ls k ≠ .heading where
  mp := fun ⟨j, hj, hp, hk⟩ => ⟨⟨j, hj⟩, hp, fun k h => hk k h k.isLt⟩
  mpr := fun ⟨j, hp, hk⟩ => ⟨j, j.isLt, hp, fun k h hi => hk ⟨k, hi⟩ h⟩

theorem role_eq_ignorable_iff : role ls i = .ignorable ↔ isIgnorable (lineAt ls i) := by
  rw [role]
  split_ifs <;> simp_all

theorem role_eq_continuation_iff :
    role ls i = .continuation ↔
      isIgnorable (lineAt ls i) = false ∧ isIndented (lineAt ls i) ∧ InEntry ls i := by
  rw [role, inEntry_iff]
  split_ifs <;> simp_all

theorem role_eq_heading_iff :
    role ls i = .heading ↔
      isIgnorable (lineAt ls i) = false ∧ ¬(isIndented (lineAt ls i) ∧ InEntry ls i) ∧
        (trimStart (lineAt ls i)).head? = some '[' := by
  rw [role, inEntry_iff]
  split_ifs <;> simp_all

theorem role_eq_pair_iff :
    role ls i = .pair ↔
      isIgnorable (lineAt ls i) = false ∧ ¬(isIndented (lineAt ls i) ∧ InEntry ls i) ∧
        (trimStart (lineAt ls i)).head? ≠ some '[' := by
  rw [role, inEntry_iff]
  split_ifs <;> simp_all

end Document
end BuildConfig
