import BuildConfig.Toml.Reader

namespace BuildConfig
namespace Toml

def isBasic (c : Char) : Bool :=
  isPlain c ∧ c ≠ '"' ∧ c ≠ '\\'

def isLiteral (c : Char) : Bool :=
  isPlain c ∧ c ≠ '\x27'

namespace Reader

-- The character that an escape sequence stands for. Its backslash has been taken already.
def escaped : Reader Char := do
  match ← next? with
  | some 'b'  => return '\x08'
  | some 't'  => return '\t'
  | some 'n'  => return '\n'
  | some 'f'  => return '\x0c'
  | some 'r'  => return '\r'
  | some '"'  => return '"'
  | some '\\' => return '\\'
  | some 'u'  => codePoint 4
  | some 'U'  => codePoint 8
  | _         => throw .notAnEscape
where
  codePoint (count : Nat) : Reader Char := do
    match Numeral.read? 16 (← digits count 16) with
    | some n => if n.isValidChar then return Char.ofNat n else throw .notACharacter
    | none   => throw .notACharacter

-- A stretch of a text in double quotes, if one follows.
def basicPiece? : Reader (Option (List Char)) := do
  let cs ← chars isBasic
  if cs ≠ [] then return some cs
  if ← skip? ['\\'] then return some [← escaped]
  return none

def literalPiece? : Reader (Option (List Char)) := do
  let cs ← chars isLiteral
  return if cs = [] then none else some cs

-- A text on one line between two marks.
def quoted (mark : Char) (piece? : Reader (Option (List Char))) : Reader (List Char) := do
  skip "an opening quote" [mark]
  let pieces ← many piece?
  skip "a closing quote" [mark]
  return pieces.flatten

-- A backslash at the end of a line, with all the blanks and line ends after it.
def continuation? : Reader Bool := do
  let cs ← get
  if ← skip? ['\\'] then
    spaces
    if ← newline? then
      discard (many blank?)
      return true
    set cs
  return false
where
  blank? : Reader (Option Unit) := do
    if (← chars isSpace) ≠ [] then return some ()
    if ← newline? then return some ()
    return none

-- A stretch of a text over several lines. One or two marks inside stand for themselves.
def linesPiece? (mark : Char) (piece? : Reader (Option (List Char))) :
    Reader (Option (List Char)) := do
  if ← newline? then return some ['\n']
  let marks := (← get).takeWhile (· = mark)
  if marks.length = 1 ∨ marks.length = 2 then
    modify (·.drop marks.length)
    return some marks
  piece?

-- A text between triple marks. The line end after the first three does not count, and up to two
-- marks before the last three do.
def quotedLines (mark : Char) (piece? : Reader (Option (List Char))) : Reader (List Char) := do
  let delimiter := List.replicate 3 mark
  skip "an opening quote" delimiter
  discard newline?
  let pieces ← many (linesPiece? mark piece?)
  let marks := (← get).takeWhile (· = mark)
  let kept := marks.take (min 2 (marks.length - 3))
  modify (·.drop kept.length)
  skip "a closing quote" delimiter
  return pieces.flatten ++ kept

def basic : Reader (List Char) :=
  quoted '"' basicPiece?

def literal : Reader (List Char) :=
  quoted '\x27' literalPiece?

def basicLines : Reader (List Char) :=
  quotedLines '"' do
    if ← continuation? then return some []
    basicPiece?

def literalLines : Reader (List Char) :=
  quotedLines '\x27' literalPiece?

def text : Reader (List Char) := do
  let cs ← get
  if ['"', '"', '"'].isPrefixOf cs then basicLines
  else if ['\x27', '\x27', '\x27'].isPrefixOf cs then literalLines
  else if ['"'].isPrefixOf cs then basic
  else literal

end Reader
end Toml
end BuildConfig
