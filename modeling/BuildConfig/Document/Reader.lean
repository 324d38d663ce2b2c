import BuildConfig.Document.Line

namespace BuildConfig
namespace Document

-- Where in a document a line stands: under which heading, and after which key of that section.
structure Scope where
  heading : String := ""
  pending : Option String := none
  deriving DecidableEq

-- The entry that a line adds, if it adds one, and where the next line stands. An indented line
-- after a key of the same section is one more value of that key, whatever it looks like.
def Scope.read (scope : Scope) (number : Nat) : Line → Except Error (Scope × Document)
  | .ignorable => .ok (scope, [])
  | .text indented body =>
    match indented, scope.pending with
    | true, some key => .ok (scope, [⟨scope.heading, key, valueText body, number⟩])
    | _, _ =>
      match Statement.ofBody body with
      | .error fault           => .error ⟨number, fault⟩
      | .ok (.heading name)    => .ok ({ heading := name }, [])
      | .ok (.pair key value)  =>
        .ok ({ scope with pending := some key }, [⟨scope.heading, key, value, number⟩])

-- Reads lines in order, the first of which has the given number.
def readLines (scope : Scope) (number : Nat) : List Line → Except Error Document
  | []            => .ok []
  | line :: lines => do
    let (scope, entries) ← scope.read number line
    let further ← readLines scope (number + 1) lines
    return entries ++ further

-- A byte order mark at the very start is no part of the text.
def dropMark : List Char → List Char
  | '\ufeff' :: cs => cs
  | cs             => cs

def lines (content : List Char) : List Line :=
  ((dropMark content).splitOn '\n').map Line.ofChars

def read (content : String) : Except Error Document :=
  readLines {} 1 (lines content.toList)

end Document
end BuildConfig
