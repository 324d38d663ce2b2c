namespace BuildConfig
namespace Numeral

-- What a digit is worth: `0` to `9`, then the letters of either case from ten on.
def worth? (c : Char) : Option Nat :=
  if '0' ≤ c ∧ c ≤ '9' then some (c.toNat - '0'.toNat)
  else if 'a' ≤ c ∧ c ≤ 'z' then some (c.toNat - 'a'.toNat + 10)
  else if 'A' ≤ c ∧ c ≤ 'Z' then some (c.toNat - 'A'.toNat + 10)
  else none

-- The worth of `c` as a digit in the given base.
def digit? (base : Nat) (c : Char) : Option Nat :=
  (worth? c).filter (· < base)

-- Continues the positional reading `n` with further digits.
def extend? (base n : Nat) (digits : List Char) : Option Nat :=
  digits.foldlM (fun n c => (digit? base c).map (base * n + ·)) n

-- The number that one or more digits denote.
def read? (base : Nat) : List Char → Option Nat
  | []     => none
  | digits => extend? base 0 digits

-- A sign, if there is one, and what follows it.
def splitSign : List Char → Option Char × List Char
  | '+' :: rest => (some '+', rest)
  | '-' :: rest => (some '-', rest)
  | rest        => (none, rest)

-- A decimal number with at most one sign before it.
def readSigned? (text : List Char) : Option Int :=
  let (sign, digits) := splitSign text
  (read? 10 digits).map fun n => if sign = some '-' then -n else n

def writeDecimal (n : Nat) : List Char :=
  Nat.toDigits 10 n

def writeSigned (n : Int) : List Char :=
  if n < 0 then '-' :: writeDecimal n.natAbs else writeDecimal n.natAbs

-- Hexadecimal digits in upper case.
def writeHex (n : Nat) : List Char :=
  (Nat.toDigits 16 n).map Char.toUpper

theorem extend?_append {base n : Nat} {left right : List Char} :
    extend? base n (left ++ right) = (extend? base n left).bind (extend? base · right) := by
  simp [extend?, List.foldlM_append]

theorem read?_nil {base : Nat} : read? base [] = none :=
  rfl

theorem read?_eq_extend? {base : Nat} {digits : List Char} (h : digits ≠ []) :
    read? base digits = extend? base 0 digits := by
  cases digits with
  | nil => contradiction
  | cons _ _ => rfl

end Numeral
end BuildConfig
