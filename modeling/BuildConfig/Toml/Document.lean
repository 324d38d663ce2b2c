import BuildConfig.Toml.Scalar
import BuildConfig.Toml.Text

namespace BuildConfig
namespace Toml

-- Arrays and tables between braces can be nested this deep.
def deepestNesting : Nat := 79

-- A dotted key can have this many parts.
def longestKey : Nat := 79

def isBare (c : Char) : Bool :=
  c.isAlphanum ∨ c = '_' ∨ c = '-'

-- A dotted key, split at its last dot.
structure KeyPath where
  path : List Key
  last : Key

namespace Reader

def keyPart : Reader Key := do
  spaces
  let key ←
    match ← peek? with
    | some '"'    => basic
    | some '\x27' => literal
    | _           => someChars "a key" isBare
  spaces
  return key

def keyPath : Reader KeyPath := do
  let first ← keyPart
  let others ← many do
    if ← skip? ['.'] then return some (← keyPart)
    return none
  let parts := first :: others
  if parts.length > longestKey then throw .tooDeep
  return ⟨parts.dropLast, parts.getLast?.getD first⟩

def pair (value : Reader Item) : Reader (KeyPath × Item) := do
  let key ← keyPath
  skip "an equals sign" ['=']
  spaces
  return (key, ← value)

-- The items of an array with whatever is laid out around them. A comma may follow the last one.
def array (value : Reader Item) : Reader (List Item) := do
  skip "a bracket" ['[']
  let items ← many do
    gap
    if (← peek?) = some ']' then return none
    let item ← value
    gap
    if ← skip? [','] then return some item
    if (← peek?) ≠ some ']' then throw (.expected "a comma or a bracket")
    return some item
  skip "a bracket" [']']
  return items

-- The pairs of a table between braces, all on one line. No comma may follow the last one.
def braces (value : Reader Item) : Reader Entries := do
  skip "a brace" ['\x7b']
  spaces
  if ← skip? ['\x7d'] then return []
  let first ← member
  let others ← many do
    if ← skip? [','] then return some (← member)
    return none
  skip "a brace" ['\x7d']
  (first :: others).foldlM (fun entries (key, item) => entries.bind key.path key.last item .braces) []
where
  member : Reader (KeyPath × Item) := do
    let member ← pair value
    spaces
    return member

-- An item whose inner items, if it may have any, are read by the given reader.
def itemOver (inner : Option (Reader Item)) : Reader Item := do
  match ← peek? with
  | some '"'    => return .string (← text)
  | some '\x27' => return .string (← text)
  | some 't'    => skip "true" ['t', 'r', 'u', 'e']; return .boolean true
  | some 'f'    => skip "false" ['f', 'a', 'l', 's', 'e']; return .boolean false
  | some '['    =>
    match inner with
    | some value => return .array (← array value)
    | none       => throw .tooDeep
  | some '\x7b' =>
    match inner with
    | some value => return .table .braces (← braces value)
    | none       => throw .tooDeep
  | _ => moment <|> number

-- An item in which others can be nested to the given depth.
def item : Nat → Reader Item
  | 0         => itemOver none
  | depth + 1 => itemOver (some (item depth))

end Reader

-- What one line of a document says, an item that goes over several lines being one of them.
inductive Statement
  | blank
  | table (key : KeyPath)
  | element (key : KeyPath)
  | pair (key : KeyPath) (item : Item)

namespace Reader

def statement? : Reader (Option Statement) := do
  spaces
  match ← peek? with
  | none      => return none
  | some '#'  => endOfLine; return some .blank
  | some '\n' => endOfLine; return some .blank
  | some '\r' => endOfLine; return some .blank
  | some '['  => return some (← header)
  | some _    =>
    let (key, item) ← pair (item deepestNesting)
    endOfLine
    return some (.pair key item)
where
  header : Reader Statement := do
    if ← skip? ['[', '['] then
      let key ← keyPath
      skip "two brackets" [']', ']']
      endOfLine
      return .element key
    skip "a bracket" ['[']
    let key ← keyPath
    skip "a bracket" [']']
    endOfLine
    return .table key

def statements : Reader (List Statement) := do
  discard (skip? ['\ufeff'])
  let statements ← many statement?
  if (← get) ≠ [] then throw (.expected "a key")
  return statements

end Reader

-- The tables read so far, and where the pairs that follow go.
structure Draft where
  entries : Entries := []
  cursor : List Key := []

def Draft.add (d : Draft) : Statement → Except Fault Draft
  | .blank         => .ok d
  | .table key     => do
    let entries ← d.entries.openTable key.path key.last
    return { entries, cursor := key.path ++ [key.last] }
  | .element key   => do
    let entries ← d.entries.openElement key.path key.last
    return { entries, cursor := key.path ++ [key.last] }
  | .pair key item => do
    let entries ← d.entries.descend .outerHeader (Entries.bind key.path key.last item) .header d.cursor
    return { d with entries }

-- The entries of the outermost table of a document.
def read (text : List Char) : Except Fault Entries := do
  let (statements, _) ← StateT.run Reader.statements text
  let draft ← statements.foldlM Draft.add {}
  return draft.entries

end Toml
end BuildConfig
