import BuildConfig.Document.Basic
import BuildConfig.Text.Blank

namespace BuildConfig
namespace Document

open Text

-- A line as far as its own text tells: nothing to read, or a text without blanks around it.
inductive Line
  | ignorable
  | text (indented : Bool) (body : List Char)
  deriving DecidableEq

-- Blank lines and lines that start with `;` or `#` say nothing.
def Line.ofChars (cs : List Char) : Line :=
  match trim cs with
  | []       => ignorable
  | ';' :: _ => ignorable
  | '#' :: _ => ignorable
  | body     => text (cs.head?.any isBlank) body

-- The text before and after the first character of a kind.
def splitAt? (p : Char → Bool) : List Char → Option (List Char × List Char)
  | []      => none
  | c :: cs => if p c then some ([], cs) else (splitAt? p cs).map fun (before, after) => (c :: before, after)

theorem splitAt?_eq_none_iff {p : Char → Bool} {cs : List Char} :
    splitAt? p cs = none ↔ ∀ c ∈ cs, p c = false := by
  induction cs with
  | nil => simp [splitAt?]
  | cons c cs ih => cases h : p c <;> simp [splitAt?, h, ih]

theorem splitAt?_append {p : Char → Bool} {before after : List Char} {c : Char}
    (hb : ∀ c ∈ before, p c = false) (hc : p c) :
    splitAt? p (before ++ c :: after) = some (before, after) := by
  induction before with
  | nil => simp [splitAt?, hc]
  | cons b before ih =>
    have ⟨h, hb⟩ := List.forall_mem_cons.mp hb
    simp [splitAt?, h, ih hb]

-- A value ends where a `;` follows a blank.
def uncomment (afterBlank : Bool) : List Char → List Char
  | []      => []
  | c :: cs => if c = ';' ∧ afterBlank then [] else c :: uncomment (isBlank c) cs

def valueText (cs : List Char) : String :=
  String.ofList (trim (uncomment false cs))

def isDelimiter (c : Char) : Bool :=
  c = '=' ∨ c = ':'

-- What a line says that does not continue an earlier one.
inductive Statement
  | heading (name : String)
  | pair (key value : String)
  deriving DecidableEq

-- What follows the closing bracket of a heading counts for nothing.
def Statement.ofHeading (cs : List Char) : Except Fault Statement :=
  match splitAt? (· = ']') cs with
  | none           => .error .unterminatedHeading
  | some (name, _) => .ok (.heading (String.ofList (trim name)))

def Statement.ofPair (cs : List Char) : Except Fault Statement :=
  match splitAt? isDelimiter cs with
  | none                 => .error .missingDelimiter
  | some (before, after) =>
    match trim before with
    | []  => .error .emptyKey
    | key => .ok (.pair (String.ofList key) (valueText after))

def Statement.ofBody (body : List Char) : Except Fault Statement :=
  match body with
  | '[' :: rest => ofHeading rest
  | _           => ofPair body

end Document
end BuildConfig
