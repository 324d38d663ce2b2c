import BuildConfig.Numeral

namespace BuildConfig

-- The type that a definition declares for its key.
inductive ValueType
  | string
  | integer
  | hexInteger
  | unsignedInteger
  | boolean
  deriving DecidableEq

namespace ValueType

def all : List ValueType :=
  [string, integer, hexInteger, unsignedInteger, boolean]

def keyword : ValueType → String
  | string          => "string"
  | integer         => "integer"
  | hexInteger      => "hex_integer"
  | unsignedInteger => "unsigned_integer"
  | boolean         => "boolean"

def ofKeyword? (token : String) : Option ValueType :=
  all.find? (·.keyword = token)

-- A token that names no type stands for `string`.
def ofKeyword (token : String) : ValueType :=
  (ofKeyword? token).getD string

end ValueType

inductive Value
  | string (text : String)
  | integer (n : Int64)
  | hexInteger (n : UInt64)
  | unsignedInteger (n : UInt64)
  | boolean (b : Bool)
  deriving DecidableEq

namespace Value

def type : Value → ValueType
  | string _          => .string
  | integer _         => .integer
  | hexInteger _      => .hexInteger
  | unsignedInteger _ => .unsignedInteger
  | boolean _         => .boolean

-- What a key holds as long as nothing has been assigned to it.
def empty : ValueType → Value
  | .string          => string ""
  | .integer         => integer 0
  | .hexInteger      => hexInteger 0
  | .unsignedInteger => unsignedInteger 0
  | .boolean         => boolean false

theorem type_empty (type : ValueType) : (empty type).type = type := by
  cases type <;> rfl

-- The characters of a string literal: quotes and backslashes get a backslash in front of them.
def escape (c : Char) : List Char :=
  if c = '"' ∨ c = '\\' then ['\\', c] else [c]

def literal (text : List Char) : List Char :=
  '"' :: text.flatMap escape ++ ['"']

-- A value as it stands in a generated file.
def render : Value → String
  | string text       => String.ofList (literal text.toList)
  | integer n         => String.ofList (Numeral.writeSigned n.toInt)
  | hexInteger n      => String.ofList ('0' :: 'x' :: Numeral.writeHex n.toNat)
  | unsignedInteger n => String.ofList (Numeral.writeDecimal n.toNat)
  | boolean b         => if b then "1" else "0"

end Value
end BuildConfig
