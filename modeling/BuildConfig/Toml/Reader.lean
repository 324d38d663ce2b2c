import BuildConfig.Numeral
import BuildConfig.Toml.Item

namespace BuildConfig
namespace Toml

-- Takes a part off the front of a text, or fails without taking anything.
abbrev Reader := StateT (List Char) (Except Fault)

namespace Reader

-- The next character, which is left in place.
def peek? : Reader (Option Char) :=
  return (← get).head?

def next? : Reader (Option Char) := do
  let cs ← get
  set cs.tail
  return cs.head?

-- The longest run of characters of a kind.
def chars (p : Char → Bool) : Reader (List Char) := do
  let cs ← get
  set (cs.dropWhile p)
  return cs.takeWhile p

-- A run that may not be empty.
def someChars (what : String) (p : Char → Bool) : Reader (List Char) := do
  let cs ← chars p
  if cs = [] then throw (.expected what)
  return cs

-- Takes a text off the front, or tells that it does not stand there.
def skip? (text : List Char) : Reader Bool := do
  let cs ← get
  if text.isPrefixOf cs then
    set (cs.drop text.length)
    return true
  return false

def skip (what : String) (text : List Char) : Reader Unit := do
  if !(← skip? text) then throw (.expected what)

-- Takes the first of several texts that stands at the front, or tells that none does.
def skipAny? : List (List Char) → Reader Bool
  | []            => return false
  | text :: texts => do
    if ← skip? text then return true
    skipAny? texts

-- Reads items as long as there are any, at most `bound` of them.
def collect {α : Type} (item? : Reader (Option α)) (bound : Nat) : Reader (List α) :=
  match bound with
  | 0         => return []
  | bound + 1 => do
    match ← item? with
    | none   => return []
    | some a => return a :: (← collect item? bound)

-- Every item takes at least one character, so their number is bounded by what is left to read.
def many {α : Type} (item? : Reader (Option α)) : Reader (List α) := do
  collect item? ((← get).length + 1)

-- Exactly so many digits of a base.
def digits (count base : Nat) : Reader (List Char) := do
  let cs := (← get).take count
  if cs.length = count ∧ cs.all fun c => (Numeral.digit? base c).isSome then
    modify (·.drop count)
    return cs
  throw (.expected "a digit")

-- The number that so many decimal digits denote, within limits.
def limited (count low high : Nat) : Reader Nat := do
  let cs ← digits count 10
  match Numeral.read? 10 cs with
  | some n => if low ≤ n ∧ n ≤ high then return n else throw (.outOfRange cs)
  | none   => throw (.expected "a number")

end Reader

def isSpace (c : Char) : Bool :=
  c = ' ' ∨ c = '\t'

-- Characters that can stand in a comment: all but the control characters, tabs excepted.
def isPlain (c : Char) : Bool :=
  c = '\t' ∨ (' ' ≤ c ∧ c ≠ '\x7f')

namespace Reader

def spaces : Reader Unit :=
  discard (chars isSpace)

def newline? : Reader Bool :=
  skipAny? [['\n'], ['\r', '\n']]

def comment? : Reader Bool := do
  if ← skip? ['#'] then
    discard (chars isPlain)
    return true
  return false

-- What may follow on the line of a header or a pair.
def endOfLine : Reader Unit := do
  spaces
  discard comment?
  if (← get) ≠ [] ∧ !(← newline?) then throw (.expected "the end of the line")

-- Blanks, line ends and comments between the items of an array.
def gap : Reader Unit :=
  discard (many blank?)
where
  blank? : Reader (Option Unit) := do
    if (← chars isSpace) ≠ [] then return some ()
    if ← comment? then
      if ← newline? then return some ()
      throw (.expected "the end of the line")
    if ← newline? then return some ()
    return none

end Reader
end Toml
end BuildConfig
