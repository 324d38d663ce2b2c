import BuildConfig.Numeral
import BuildConfig.Proofs.Text.Characters
import Mathlib.Data.List.Forall2
import Mathlib.Data.Nat.Digits.Defs

namespace BuildConfig
namespace Numeral

-- The digits from zero on. Above nine they are letters of either case.
def lowerRow : List Char :=
  "0123456789abcdef".toList

def upperRow : List Char :=
  "0123456789ABCDEF".toList

-- A character counts what its place in one of the rows says, if the base goes that far.
structure IsDigit (base : Nat) (c : Char) (d : Nat) : Prop where
  lt  : d < base
  row : lowerRow[d]? = some c ∨ upperRow[d]? = some c

-- The number that digits denote by their places, of which the last one counts ones.
def Denotes (base : Nat) (digits : List Char) (n : Nat) : Prop :=
  ∃ worths, List.Forall₂ (IsDigit base) digits worths ∧ Nat.ofDigits base worths.reverse = n

-- A number that is written with at least one digit.
structure IsNatural (base : Nat) (digits : List Char) (n : Nat) : Prop where
  nonempty : digits ≠ []
  denotes  : Denotes base digits n

-- The sign that a text starts with, if it starts with one, and what follows it.
inductive SignedBy : List Char → Option Char → List Char → Prop
  | plus {rest}  : SignedBy ('+' :: rest) (some '+') rest
  | minus {rest} : SignedBy ('-' :: rest) (some '-') rest
  | none {rest} (hp : rest.head? ≠ some '+') (hm : rest.head? ≠ some '-') : SignedBy rest none rest

variable {base d d₁ d₂ n n₁ n₂ m : Nat} {c : Char} {digits text rest : List Char}
variable {sign : Option Char}

theorem worth?_of_row (hd : d < 16) (h : lowerRow[d]? = some c ∨ upperRow[d]? = some c) :
    worth? c = some d := by
  have hl : ∀ d < 16, lowerRow[d]?.bind worth? = some d := by decide
  have hu : ∀ d < 16, upperRow[d]?.bind worth? = some d := by decide
  cases h with
  | inl h => simpa [h] using hl d hd
  | inr h => simpa [h] using hu d hd

theorem toNat_lt_of_worth? (h : worth? c = some d) : c.toNat < 128 := by
  rw [worth?] at h
  split_ifs at h with hr hr hr
  all_goals exact Nat.lt_of_le_of_lt hr.right (by decide)

-- Only characters of ASCII are digits.
theorem row_of_worth? (hd : d < 16) (h : worth? c = some d) :
    lowerRow[d]? = some c ∨ upperRow[d]? = some c := by
  let p (c : Char) : Prop :=
    ∀ d < 16, worth? c = some d → lowerRow[d]? = some c ∨ upperRow[d]? = some c
  have hp : p c := Text.forall_ascii (by decide +kernel) (toNat_lt_of_worth? h)
  exact hp d hd h

theorem digit?_eq_some_iff (hb : base ≤ 16) : digit? base c = some d ↔ IsDigit base c d := by
  have hf : digit? base c = some d ↔ worth? c = some d ∧ d < base := by
    simp [digit?, Option.filter_eq_some_iff]
  rw [hf]
  constructor
  case mp  => exact fun ⟨hw, hd⟩ => ⟨hd, row_of_worth? (by omega) hw⟩
  case mpr => exact fun ⟨hd, hr⟩ => ⟨worth?_of_row (by omega) hr, hd⟩

theorem isSome_digit?_iff (hb : base ≤ 16) : (digit? base c).isSome ↔ ∃ d, IsDigit base c d := by
  simp only [Option.isSome_iff_exists, digit?_eq_some_iff hb]

theorem IsDigit.unique (hb : base ≤ 16) (h₁ : IsDigit base c d₁) (h₂ : IsDigit base c d₂) :
    d₁ = d₂ :=
  Option.some.inj (((digit?_eq_some_iff hb).mpr h₁).symm.trans ((digit?_eq_some_iff hb).mpr h₂))

theorem extend?_cons :
    extend? base n (c :: digits) =
      (digit? base c).bind fun d => extend? base (base * n + d) digits := by
  rw [extend?, List.foldlM_cons, Option.bind_eq_bind, Option.bind_map]
  rfl

-- The induction leaves open which number was read before the digits. It counts as many times as
-- there are places behind it.
theorem extend?_eq_some_iff (hb : base ≤ 16) :
    extend? base n digits = some m ↔ ∃ worths, List.Forall₂ (IsDigit base) digits worths ∧
      Nat.ofDigits base worths.reverse + base ^ worths.length * n = m := by
  induction digits generalizing n with
  | nil => simp [extend?, List.forall₂_nil_left_iff]
  | cons c digits ih =>
    have hp {worths : List Nat} {d : Nat} :
        Nat.ofDigits base (d :: worths).reverse + base ^ (d :: worths).length * n =
          Nat.ofDigits base worths.reverse + base ^ worths.length * (base * n + d) := by
      rw [Nat.ofDigits_reverse_cons, List.length_cons]
      ring
    rw [extend?_cons, Option.bind_eq_some_iff]
    constructor
    case mp =>
      rintro ⟨d, hd, hm⟩
      obtain ⟨worths, hw, hm⟩ := ih.mp hm
      exact ⟨d :: worths, .cons ((digit?_eq_some_iff hb).mp hd) hw, hp.trans hm⟩
    case mpr =>
      rintro ⟨_, hw, hm⟩
      cases hw with
      | @cons _ d _ worths hd hw =>
        exact ⟨d, (digit?_eq_some_iff hb).mpr hd, ih.mpr ⟨worths, hw, hp.symm.trans hm⟩⟩

theorem extend?_zero_eq_some_iff (hb : base ≤ 16) :
    extend? base 0 digits = some n ↔ Denotes base digits n := by
  simp [extend?_eq_some_iff hb, Denotes]

-- Reading digits is counting by places, and digits that are no digits are not read.
theorem read?_eq_some_iff (hb : base ≤ 16) :
    read? base digits = some n ↔ IsNatural base digits n := by
  by_cases h : digits = []
  case pos =>
    rw [h, read?_nil]
    exact iff_of_false nofun fun hn => hn.nonempty rfl
  case neg =>
    rw [read?_eq_extend? h, extend?_zero_eq_some_iff hb]
    exact ⟨fun hd => ⟨h, hd⟩, fun hn => hn.denotes⟩

theorem Denotes.unique (hb : base ≤ 16) (h₁ : Denotes base digits n₁)
    (h₂ : Denotes base digits n₂) : n₁ = n₂ := by
  have h₁ := (extend?_zero_eq_some_iff hb).mpr h₁
  have h₂ := (extend?_zero_eq_some_iff hb).mpr h₂
  exact Option.some.inj (h₁.symm.trans h₂)

theorem exists_denotes (h : ∀ c ∈ digits, ∃ d, IsDigit base c d) : ∃ n, Denotes base digits n := by
  have ⟨worths, hw⟩ : ∃ worths, List.Forall₂ (IsDigit base) digits worths := by
    induction digits with
    | nil => exact ⟨[], .nil⟩
    | cons c digits ih =>
      have ⟨⟨d, hd⟩, h⟩ := List.forall_mem_cons.mp h
      have ⟨worths, hw⟩ := ih h
      exact ⟨d :: worths, .cons hd hw⟩
  exact ⟨_, worths, hw, rfl⟩

theorem IsDigit.eq_zero_iff (hb : base ≤ 16) (h : IsDigit base c d) : d = 0 ↔ c = '0' := by
  have h₀ : IsDigit base '0' 0 := ⟨Nat.zero_lt_of_lt h.lt, .inl rfl⟩
  constructor
  case mp =>
    rintro rfl
    have hr : lowerRow[0]? = some c ∨ upperRow[0]? = some c := h.row
    exact hr.elim (fun hc => (Option.some.inj hc).symm) fun hc => (Option.some.inj hc).symm
  case mpr =>
    rintro rfl
    exact h.unique hb h₀

-- Only zeros denote zero, however many there are.
theorem Denotes.eq_zero_iff (hb : base ≤ 16) (h : Denotes base digits n) :
    n = 0 ↔ ∀ c ∈ digits, c = '0' := by
  obtain ⟨worths, hw, rfl⟩ := h
  induction hw with
  | nil => simp
  | @cons c d digits worths hd _ ih =>
    have hb₀ : base ≠ 0 := Nat.ne_zero_of_lt hd.lt
    rw [Nat.ofDigits_reverse_cons, Nat.add_eq_zero_iff, ih, List.forall_mem_cons, ← hd.eq_zero_iff hb]
    simp [hb₀, and_comm]

theorem splitSign_eq_iff : splitSign text = (sign, rest) ↔ SignedBy text sign rest := by
  constructor
  case mp =>
    intro h
    unfold splitSign at h
    split at h <;> cases h
    case h_1       => exact .plus
    case h_2       => exact .minus
    case h_3 hp hm =>
      have hs {c : Char} (hc : ∀ rest, text = c :: rest → False) : text.head? ≠ some c :=
        mt List.head?_eq_some_iff.mp fun ⟨rest, h⟩ => hc rest h
      exact .none (hs hp) (hs hm)
  case mpr =>
    intro h
    cases h with
    | plus       => rfl
    | minus      => rfl
    | none hp hm =>
      unfold splitSign
      split
      case h_1 => exact absurd rfl hp
      case h_2 => exact absurd rfl hm
      case h_3 => rfl

end Numeral
end BuildConfig
