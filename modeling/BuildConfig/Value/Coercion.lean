import BuildConfig.Value.Basic

namespace BuildConfig

-- A text that does not fit the type it should be read as.
structure Misfit where
  text : String
  expected : ValueType
  deriving DecidableEq

def Misfit.message (m : Misfit) : String :=
  "unable to parse: " ++ m.text ++ " (expected " ++ m.expected.keyword ++ ")"

namespace Value

-- The blanks that may precede a number in C.
def isNumberBlank (c : Char) : Bool :=
  c = ' ' ∨ c = '\t' ∨ c = '\n' ∨ c = '\x0b' ∨ c = '\x0c' ∨ c = '\r'

-- Whether a text starts, after blanks and a sign, with a number that has a digit other than zero.
def startsWithNonzero (text : List Char) : Bool :=
  let (_, digits) := Numeral.splitSign (text.dropWhile isNumberBlank)
  match digits.dropWhile (· = '0') with
  | c :: _ => '1' ≤ c ∧ c ≤ '9'
  | []     => false

-- Every text has a truth value.
def truth (text : String) : Bool :=
  text = "true" || startsWithNonzero text.toList

def readInteger? (text : List Char) : Option Int64 := do
  let n ← Numeral.readSigned? text
  guard (Int64.minValue.toInt ≤ n ∧ n ≤ Int64.maxValue.toInt)
  return Int64.ofInt n

def readWord? (base : Nat) (digits : List Char) : Option UInt64 := do
  let n ← Numeral.read? base digits
  guard (n < UInt64.size)
  return UInt64.ofNat n

-- A minus sign is no part of an unsigned number, not even of zero.
def readUnsigned? (text : List Char) : Option UInt64 :=
  match text with
  | '+' :: digits => readWord? 10 digits
  | digits        => readWord? 10 digits

def readHex? (text : List Char) : Option UInt64 :=
  match text with
  | '0' :: 'x' :: digits => readWord? 16 digits
  | _                    => none

-- The value of the given type that a text denotes.
def read? (type : ValueType) (text : String) : Option Value :=
  match type with
  | .string          => some (string text)
  | .integer         => (readInteger? text.toList).map integer
  | .hexInteger      => (readHex? text.toList).map hexInteger
  | .unsignedInteger => (readUnsigned? text.toList).map unsignedInteger
  | .boolean         => some (boolean (truth text))

theorem type_of_read? {type : ValueType} {text : String} {v : Value}
    (h : read? type text = some v) : v.type = type := by
  cases type with
  | string  => cases h; rfl
  | boolean => cases h; rfl
  | integer =>
    obtain ⟨_, _, rfl⟩ := Option.map_eq_some_iff.mp h
    rfl
  | hexInteger =>
    obtain ⟨_, _, rfl⟩ := Option.map_eq_some_iff.mp h
    rfl
  | unsignedInteger =>
    obtain ⟨_, _, rfl⟩ := Option.map_eq_some_iff.mp h
    rfl

def coerce (type : ValueType) (text : String) : Except Misfit Value :=
  match read? type text with
  | some v => .ok v
  | none   => .error ⟨text, type⟩

theorem coerce_eq_ok_iff {type : ValueType} {text : String} {v : Value} :
    coerce type text = .ok v ↔ read? type text = some v := by
  unfold coerce
  cases read? type text <;> simp

theorem coerce_eq_error_iff {type : ValueType} {text : String} {m : Misfit} :
    coerce type text = .error m ↔ read? type text = none ∧ m = ⟨text, type⟩ := by
  unfold coerce
  cases read? type text <;> simp [eq_comm]

theorem type_of_coerce {type : ValueType} {text : String} {v : Value}
    (h : coerce type text = .ok v) : v.type = type :=
  type_of_read? (coerce_eq_ok_iff.mp h)

end Value
end BuildConfig
