import BuildConfig.Toml.Reader

namespace BuildConfig
namespace Toml

def isDigit (base : Nat) (c : Char) : Bool :=
  (Numeral.digit? base c).isSome

def daysIn (year month : Nat) : Nat :=
  if month = 2 then
    if year % 4 = 0 ∧ (year % 100 ≠ 0 ∨ year % 400 = 0) then 29 else 28
  else if month = 4 ∨ month = 6 ∨ month = 9 ∨ month = 11 then 30
  else 31

-- Half a unit in the last place above the largest finite number of double precision. What is not
-- below this bound is rounded to infinity.
def doubleBound : Nat :=
  Nat.pow 2 1024 - Nat.pow 2 970

-- Whether `mantissa * 10 ^ scale` is too large for a finite number of double precision. The
-- number of digits decides unless the value is near the bound.
def overflows (mantissa : Nat) (scale : Int) : Bool :=
  let magnitude := (Numeral.writeDecimal mantissa).length + scale
  if mantissa = 0 ∨ magnitude < 300 then false
  else if magnitude > 320 then true
  else mantissa * Nat.pow 10 scale.toNat ≥ doubleBound * Nat.pow 10 (-scale).toNat

namespace Reader

-- Digits in groups with one underscore between two of them.
def grouped (base : Nat) : Reader (List Char) := do
  let first ← someChars "a digit" (isDigit base)
  let others ← many do
    if ← skip? ['_'] then return some (← someChars "a digit" (isDigit base))
    return none
  return first ++ others.flatten

-- A decimal number without superfluous zeros in front.
def whole : Reader (List Char) := do
  if ← skip? ['0'] then return ['0']
  grouped 10

def sign : Reader (Option Char) := do
  let (sign, rest) := Numeral.splitSign (← get)
  set rest
  return sign

def exponent? : Reader (Option Int) := do
  if ← skipAny? [['e'], ['E']] then
    let sign ← sign
    let n := (Numeral.read? 10 (← grouped 10)).getD 0
    return some (if sign = some '-' then -n else n)
  return none

def integerOf (sign : Option Char) (base : Nat) (digits : List Char) : Reader Item := do
  let magnitude := (Numeral.read? base digits).getD 0
  let n : Int := if sign = some '-' then -magnitude else magnitude
  if Int64.minValue.toInt ≤ n ∧ n ≤ Int64.maxValue.toInt then return .integer n
  throw (.outOfRange digits)

-- A decimal number, with or without a fraction and an exponent.
def decimal : Reader Item := do
  let start ← get
  let sign ← sign
  if ← skipAny? [['i', 'n', 'f'], ['n', 'a', 'n']] then
    return .float (start.take (start.length - (← get).length))
  let digits ← whole
  let fraction ← if ← skip? ['.'] then grouped 10 else pure []
  let exponent ← exponent?
  if fraction = [] ∧ exponent = none then
    integerOf sign 10 digits
  else
    let numeral := start.take (start.length - (← get).length)
    let mantissa := (Numeral.read? 10 (digits ++ fraction)).getD 0
    if sign ≠ some '-' ∧ overflows mantissa (exponent.getD 0 - fraction.length) then
      throw (.outOfRange numeral)
    return .float numeral

def number : Reader Item := do
  if ← skip? ['0', 'x'] then integerOf none 16 (← grouped 16)
  else if ← skip? ['0', 'o'] then integerOf none 8 (← grouped 8)
  else if ← skip? ['0', 'b'] then integerOf none 2 (← grouped 2)
  else decimal

def date : Reader Unit := do
  let year ← limited 4 0 9999
  skip "a hyphen" ['-']
  let month ← limited 2 1 12
  skip "a hyphen" ['-']
  discard (limited 2 1 (daysIn year month))

-- A minute can have a sixty-first second.
def time : Reader Unit := do
  discard (limited 2 0 23)
  skip "a colon" [':']
  discard (limited 2 0 59)
  skip "a colon" [':']
  discard (limited 2 0 60)
  if ← skip? ['.'] then
    discard (someChars "a digit" (isDigit 10))

def offset : Reader Unit := do
  if ← skipAny? [['Z'], ['z']] then return
  match ← next? with
  | some '+' => clock
  | some '-' => clock
  | _        => throw (.expected "an offset")
where
  clock : Reader Unit := do
    discard (limited 2 0 23)
    skip "a colon" [':']
    discard (limited 2 0 59)

-- Does as much as it can of something that may be left out.
def attempt (r : Reader Unit) : Reader Unit :=
  try r catch _ => return

def moment : Reader Item := do
  let start ← get
  (do date; attempt (do separator; time; attempt offset)) <|> time
  return .moment (start.take (start.length - (← get).length))
where
  separator : Reader Unit := do
    match ← next? with
    | some 'T' => return
    | some 't' => return
    | some ' ' => return
    | _        => throw (.expected "a time")

end Reader
end Toml
end BuildConfig
