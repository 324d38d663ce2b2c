namespace BuildConfig

-- One `key = value` pair of a document, under the heading of its section.
structure Entry where
  heading : String
  key : String
  value : String
  line : Nat
  deriving DecidableEq

abbrev Document := List Entry

namespace Document

-- What can be wrong with a line that has to be a heading or a pair.
inductive Fault
  | unterminatedHeading
  | missingDelimiter
  | emptyKey
  deriving DecidableEq

def Fault.message : Fault → String
  | unterminatedHeading => "unterminated section header"
  | missingDelimiter    => "expected `key = value`"
  | emptyKey            => "empty key"

-- Lines are counted from one.
structure Error where
  line : Nat
  fault : Fault
  deriving DecidableEq

def Error.message (e : Error) : String :=
  "line " ++ toString e.line ++ ": " ++ e.fault.message

end Document
end BuildConfig
