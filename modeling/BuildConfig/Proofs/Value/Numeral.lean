import BuildConfig.Numeral
import Mathlib.Data.Nat.Basic

namespace BuildConfig
namespace Numeral

variable {base n : Nat} {c : Char} {digits : List Char}

-- Only digits of the base are read.
theorem digit?_of_extend? {m : Nat} (h : extend? base n digits = some m) :
    ∀ c ∈ digits, (digit? base c).isSome := by
  induction digits generalizing n with
  | nil => simp
  | cons c digits ih =>
    have ⟨next, hn, hd⟩ := Option.bind_eq_some_iff.mp h
    have ⟨d, hc, _⟩ := Option.map_eq_some_iff.mp hn
    exact List.forall_mem_cons.mpr ⟨Option.isSome_of_mem hc, ih hd⟩

theorem not_mem_of_read? (h : read? base digits = some n) (hc : digit? base c = none) :
    c ∉ digits := by
  cases digits with
  | nil => exact List.not_mem_nil
  | cons b digits =>
    intro hm
    have hd : (digit? base c).isSome := digit?_of_extend? h c hm
    simp [hc] at hd

-- The digits of a number are read as that number, in whatever letters they are written. The
-- induction is on the number without its last digit.
theorem extend?_map_toDigits {letter : Char → Char} (hb : 1 < base)
    (hl : ∀ d < base, digit? base (letter d.digitChar) = some d) :
    extend? base 0 ((Nat.toDigits base n).map letter) = some n := by
  induction n using Nat.strong_induction_on with
  | _ n ih =>
    rw [Nat.toDigits_eq_if hb]
    split
    case isTrue h => simp [extend?, hl n h]
    case isFalse h =>
      have hd : n / base < n := Nat.div_lt_self (by omega) hb
      have hm : n % base < base := Nat.mod_lt n (by omega)
      rw [List.map_append, extend?_append, ih _ hd]
      simp [extend?, hl _ hm, Nat.div_add_mod]

theorem read?_map_toDigits {letter : Char → Char} (hb : 1 < base)
    (hl : ∀ d < base, digit? base (letter d.digitChar) = some d) :
    read? base ((Nat.toDigits base n).map letter) = some n := by
  have hn : (Nat.toDigits base n).map letter ≠ [] :=
    mt List.map_eq_nil_iff.mp Nat.toDigits_ne_nil
  rw [read?_eq_extend? hn]
  exact extend?_map_toDigits hb hl

theorem read?_writeDecimal : read? 10 (writeDecimal n) = some n := by
  have h : read? 10 ((Nat.toDigits 10 n).map id) = some n :=
    read?_map_toDigits (by decide) (by decide)
  rwa [List.map_id] at h

theorem read?_writeHex : read? 16 (writeHex n) = some n :=
  read?_map_toDigits (by decide) (by decide)

theorem splitSign_eq_self (hp : '+' ∉ digits) (hm : '-' ∉ digits) :
    splitSign digits = (none, digits) := by
  unfold splitSign
  split
  case h_1 => exact absurd List.mem_cons_self hp
  case h_2 => exact absurd List.mem_cons_self hm
  case h_3 => rfl

-- Digits that are read as a number do not start with a sign.
theorem splitSign_of_read? (h : read? 10 digits = some n) : splitSign digits = (none, digits) := by
  have hp : '+' ∉ digits := not_mem_of_read? h (by decide)
  have hm : '-' ∉ digits := not_mem_of_read? h (by decide)
  exact splitSign_eq_self hp hm

theorem readSigned?_writeSigned {n : Int} : readSigned? (writeSigned n) = some n := by
  by_cases h : n < 0
  case pos =>
    have hs : splitSign (writeSigned n) = (some '-', writeDecimal n.natAbs) := by
      rw [writeSigned, if_pos h]
      rfl
    have hn : -(n.natAbs : Int) = n := by omega
    rw [readSigned?, hs]
    simp only [read?_writeDecimal, if_true]
    exact congrArg some hn
  case neg =>
    have hs : splitSign (writeSigned n) = (none, writeDecimal n.natAbs) := by
      rw [writeSigned, if_neg h, splitSign_of_read? read?_writeDecimal]
    have hn : (n.natAbs : Int) = n := by omega
    rw [readSigned?, hs]
    simp only [read?_writeDecimal, reduceCtorEq, if_false]
    exact congrArg some hn

end Numeral
end BuildConfig
