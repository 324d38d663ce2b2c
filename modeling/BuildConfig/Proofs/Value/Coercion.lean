import BuildConfig.Proofs.Value.Positional
import BuildConfig.Proofs.Value.Rendering

namespace BuildConfig

-- How the numbers of each type are written. Only decimals can have a sign, and only those of integers
-- a minus sign.
inductive ValueType.IsNumeral : ValueType → List Char → Int → Prop
  | integer {sign digits n} (hs : sign = [] ∨ sign = ['+'])
    (hn : Numeral.IsNatural 10 digits n) : IsNumeral .integer (sign ++ digits) n
  | negative {digits n} (hn : Numeral.IsNatural 10 digits n) :
    IsNumeral .integer ('-' :: digits) (-n)
  | unsigned {sign digits n} (hs : sign = [] ∨ sign = ['+'])
    (hn : Numeral.IsNatural 10 digits n) : IsNumeral .unsignedInteger (sign ++ digits) n
  | hex {digits n} (hn : Numeral.IsNatural 16 digits n) :
    IsNumeral .hexInteger ('0' :: 'x' :: digits) n

-- The numbers of which a type has values.
def ValueType.Admits : ValueType → Int → Prop
  | integer, n         => -2 ^ 63 ≤ n ∧ n < 2 ^ 63
  | hexInteger, n      => 0 ≤ n ∧ n < 2 ^ 64
  | unsignedInteger, n => 0 ≤ n ∧ n < 2 ^ 64
  | _, _               => False

def Value.number? : Value → Option Int
  | integer n         => some n.toInt
  | hexInteger w      => some w.toNat
  | unsignedInteger w => some w.toNat
  | _                 => none

namespace Numeral
variable {text digits : List Char} {n : Int} {m : Nat}

theorem IsNatural.signedBy (h : IsNatural 10 digits m) : SignedBy digits none digits :=
  splitSign_eq_iff.mp (splitSign_of_read? ((read?_eq_some_iff (by decide)).mpr h))

theorem readSigned?_of_signedBy {sign : Option Char} (h : SignedBy text sign digits) :
    readSigned? text =
      (read? 10 digits).map fun m : Nat => if sign = some '-' then -(m : Int) else m := by
  rw [readSigned?, splitSign_eq_iff.mpr h]
  dsimp only
  cases read? 10 digits <;> rfl

theorem readSigned?_eq_some_iff :
    readSigned? text = some n ↔ ValueType.IsNumeral .integer text n := by
  constructor
  case mp =>
    intro h
    obtain ⟨sign, digits, hs⟩ : ∃ sign digits, SignedBy text sign digits :=
      ⟨_, _, splitSign_eq_iff.mp rfl⟩
    rw [readSigned?_of_signedBy hs] at h
    have ⟨m, hr, hn⟩ := Option.map_eq_some_iff.mp h
    have hm : IsNatural 10 digits m := (read?_eq_some_iff (by decide)).mp hr
    cases hs with
    | plus   => exact hn ▸ .integer (.inr rfl) hm
    | minus  => exact hn ▸ .negative hm
    | none _ => exact hn ▸ .integer (.inl rfl) hm
  case mpr =>
    intro h
    cases h with
    | negative hm =>
      rw [readSigned?_of_signedBy .minus, (read?_eq_some_iff (by decide)).mpr hm]
      rfl
    | integer hs hm =>
      have hr := (read?_eq_some_iff (by decide)).mpr hm
      rcases hs with rfl | rfl
      case inl =>
        rw [List.nil_append, readSigned?_of_signedBy hm.signedBy, hr]
        rfl
      case inr =>
        rw [List.singleton_append, readSigned?_of_signedBy .plus, hr]
        rfl

end Numeral

namespace Value
variable {text digits : List Char} {base : Nat} {n : Int64} {w : UInt64}

-- A reader that checks the range gives a number that is its own value in 64 bits.
theorem readInteger?_eq_some_iff :
    readInteger? text = some n ↔ ValueType.IsNumeral .integer text n.toInt := by
  rw [← Numeral.readSigned?_eq_some_iff]
  refine ⟨fun h => ?_, readInteger?_of_readSigned?⟩
  have ⟨i, hi, h⟩ := Option.bind_eq_some_iff.mp h
  have ⟨_, hr, h⟩ := Option.bind_eq_some_iff.mp h
  have ⟨hl, hu⟩ := (Option.guard_eq_some' _).mp hr
  have h : Int64.ofInt i = n := Option.some.inj h
  rw [hi, ← h, Int64.toInt_ofInt_of_le hl (Int.lt_of_le_of_lt hu (by decide))]

theorem readWord?_eq_some_iff (hb : base ≤ 16) :
    readWord? base digits = some w ↔ Numeral.IsNatural base digits w.toNat := by
  rw [← Numeral.read?_eq_some_iff hb]
  refine ⟨fun h => ?_, readWord?_of_read?⟩
  have ⟨m, hm, h⟩ := Option.bind_eq_some_iff.mp h
  have ⟨_, hr, h⟩ := Option.bind_eq_some_iff.mp h
  have hr := (Option.guard_eq_some' _).mp hr
  have h : UInt64.ofNat m = w := Option.some.inj h
  rw [hm, ← h, UInt64.toNat_ofNat_of_lt' hr]

theorem readUnsigned?_eq_some_iff :
    readUnsigned? text = some w ↔ ValueType.IsNumeral .unsignedInteger text w.toNat := by
  constructor
  case mp =>
    intro h
    unfold readUnsigned? at h
    split at h
    all_goals have hm := (readWord?_eq_some_iff (by decide)).mp h
    case h_1 => exact .unsigned (.inr rfl) hm
    case h_2 => exact .unsigned (.inl rfl) hm
  case mpr =>
    intro h
    generalize hw : (w.toNat : Int) = m at h
    cases h with
    | unsigned hs hm =>
      rw [← Int.ofNat.inj hw] at hm
      rcases hs with rfl | rfl
      case inl => exact readUnsigned?_of_read? ((Numeral.read?_eq_some_iff (by decide)).mpr hm)
      case inr => exact (readWord?_eq_some_iff (by decide)).mpr hm

theorem readHex?_eq_some_iff :
    readHex? text = some w ↔ ValueType.IsNumeral .hexInteger text w.toNat := by
  constructor
  case mp =>
    intro h
    unfold readHex? at h
    split at h
    case h_1 => exact .hex ((readWord?_eq_some_iff (by decide)).mp h)
    case h_2 => contradiction
  case mpr =>
    intro h
    generalize hw : (w.toNat : Int) = m at h
    cases h with
    | hex hm =>
      rw [← Int.ofNat.inj hw] at hm
      exact (readWord?_eq_some_iff (by decide)).mpr hm

variable {v : Value} {type : ValueType} {text : String} {i : Int}

-- A number is read as a value if it is written as a number of the type of that value.
theorem read?_eq_some_iff_isNumeral (hi : v.number? = some i) :
    read? v.type text = some v ↔ v.type.IsNumeral text.toList i := by
  cases v with
  | string _          => cases hi
  | boolean _         => cases hi
  | integer n         => cases hi; simp [read?, type, readInteger?_eq_some_iff]
  | hexInteger w      => cases hi; simp [read?, type, readHex?_eq_some_iff]
  | unsignedInteger w => cases hi; simp [read?, type, readUnsigned?_eq_some_iff]

-- The values of a type are the numbers that it admits.
theorem exists_number? (hs : v.type ≠ .string) (hb : v.type ≠ .boolean) :
    ∃ i, v.number? = some i ∧ v.type.Admits i := by
  cases v with
  | string _          => exact absurd rfl hs
  | boolean _         => exact absurd rfl hb
  | integer n         => exact ⟨_, rfl, n.le_toInt, n.toInt_lt⟩
  | hexInteger w      => exact ⟨_, rfl, Int.natCast_nonneg _, by exact_mod_cast w.toNat_lt⟩
  | unsignedInteger w => exact ⟨_, rfl, Int.natCast_nonneg _, by exact_mod_cast w.toNat_lt⟩

theorem exists_of_admits (h : type.Admits i) : ∃ v : Value, v.type = type ∧ v.number? = some i := by
  have hw (h : 0 ≤ i ∧ i < 2 ^ 64) : ((UInt64.ofNat i.toNat).toNat : Int) = i := by
    have hs : UInt64.size = 2 ^ 64 := rfl
    rw [UInt64.toNat_ofNat_of_lt' (by omega)]
    omega
  cases type with
  | string          => cases h
  | boolean         => cases h
  | integer         =>
    exact ⟨integer (.ofInt i), rfl, congrArg some (Int64.toInt_ofInt_of_le h.left h.right)⟩
  | hexInteger      => exact ⟨hexInteger (.ofNat i.toNat), rfl, congrArg some (hw h)⟩
  | unsignedInteger => exact ⟨unsignedInteger (.ofNat i.toNat), rfl, congrArg some (hw h)⟩

theorem coerce_eq_ok_iff_isNumeral (hs : type ≠ .string) (hb : type ≠ .boolean) :
    coerce type text = .ok v ↔ v.type = type ∧
      ∃ i, v.number? = some i ∧ type.IsNumeral text.toList i ∧ type.Admits i := by
  rw [coerce_eq_ok_iff]
  constructor
  case mp =>
    intro h
    obtain rfl := type_of_read? h
    have ⟨i, hi, ha⟩ := exists_number? hs hb
    exact ⟨rfl, i, hi, (read?_eq_some_iff_isNumeral hi).mp h, ha⟩
  case mpr =>
    rintro ⟨rfl, i, hi, hn, _⟩
    exact (read?_eq_some_iff_isNumeral hi).mpr hn

theorem read?_eq_none_iff_isNumeral (hs : type ≠ .string) (hb : type ≠ .boolean) :
    read? type text = none ↔ ¬∃ i, type.IsNumeral text.toList i ∧ type.Admits i := by
  constructor
  case mp =>
    rintro h ⟨i, hn, ha⟩
    have ⟨v, ht, hi⟩ := exists_of_admits ha
    have hv := coerce_eq_ok_iff.mp ((coerce_eq_ok_iff_isNumeral hs hb).mpr ⟨ht, i, hi, hn, ha⟩)
    simp [h] at hv
  case mpr =>
    intro h
    refine Option.eq_none_iff_forall_ne_some.mpr fun v hv => h ?_
    have ⟨_, i, _, hn, ha⟩ := (coerce_eq_ok_iff_isNumeral hs hb).mp (coerce_eq_ok_iff.mpr hv)
    exact ⟨i, hn, ha⟩

-- A text is a value of a numeric type exactly if the whole of it is a numeral of that type whose number,
-- however many digits it has, is in the range of 64 bits. The misfit names any other text as it is.
theorem coerce_numeral (hs : type ≠ .string) (hb : type ≠ .boolean) (text : String) :
    (∀ v, coerce type text = .ok v ↔
      v.type = type ∧
        ∃ i, v.number? = some i ∧ type.IsNumeral text.toList i ∧ type.Admits i) ∧
    ∀ misfit, coerce type text = .error misfit ↔
      (¬∃ i, type.IsNumeral text.toList i ∧ type.Admits i) ∧ misfit = ⟨text, type⟩ := by
  refine ⟨fun v => coerce_eq_ok_iff_isNumeral hs hb, fun misfit => ?_⟩
  rw [coerce_eq_error_iff, read?_eq_none_iff_isNumeral hs hb]

-- The least integer of 64 bits, with zeros in front of it, and the one below.
theorem coerce_numeral_least :
    coerce .integer "-0009223372036854775808" = .ok (integer Int64.minValue) ∧
      coerce .integer "-9223372036854775809" =
        .error ⟨"-9223372036854775809", .integer⟩ := by
  have hs : ValueType.integer ≠ .string := nofun
  have hb : ValueType.integer ≠ .boolean := nofun
  have hl : ValueType.IsNumeral .integer "-0009223372036854775808".toList (-9223372036854775808) :=
    Numeral.readSigned?_eq_some_iff.mp (by decide)
  constructor
  case left =>
    refine ((coerce_numeral hs hb _).left _).mpr ⟨rfl, _, rfl, hl, ?_⟩
    exact ⟨by decide, by decide⟩
  case right =>
    refine ((coerce_numeral hs hb _).right _).mpr ⟨?_, rfl⟩
    intro ⟨i, hn, ha⟩
    have hi : some (-9223372036854775809) = some i := Numeral.readSigned?_eq_some_iff.mpr hn
    cases hi
    exact absurd ha.left (by decide)

-- What is rendered for a number is a numeral of its type.
theorem isNumeral_render (hi : v.number? = some i) : v.type.IsNumeral v.render.toList i := by
  have hs : v.type ≠ .string := by
    cases v with
    | string _ => cases hi
    | _        => nofun
  exact (read?_eq_some_iff_isNumeral hi).mp (read?_render hs)

-- Of the texts that are read as a value one is the form in which it is rendered. It denotes the same
-- number, it is read as the same value, and rendering that gives the same text. No other value of the
-- type has it.
theorem coerce_render :
    (∀ v : Value, v.type ≠ .string → coerce v.type v.render = .ok v) ∧
    (∀ (v : Value) (i : Int), v.number? = some i → v.type.IsNumeral v.render.toList i) ∧
    (∀ (type : ValueType) (text rendered : String), type ≠ .string →
      (coerce type text).map render = .ok rendered →
      coerce type rendered = coerce type text ∧ (coerce type rendered).map render = .ok rendered) ∧
    ∀ v₁ v₂ : Value, v₁.type = v₂.type → v₁.render = v₂.render → v₁ = v₂ := by
  have hr (v : Value) (hs : v.type ≠ .string) : coerce v.type v.render = .ok v :=
    coerce_eq_ok_iff.mpr (read?_render hs)
  refine ⟨hr, fun _ _ => isNumeral_render, fun type text rendered hs h => ?_, fun _ _ => render_injective⟩
  cases hv : coerce type text with
  | error misfit =>
    rw [hv] at h
    contradiction
  | ok v =>
    rw [hv] at h
    cases h
    cases type_of_coerce hv
    exact ⟨hr v hs, congrArg (Except.map render) (hr v hs)⟩

-- Letters of both cases behind zeros, a truth value with a text behind it, and the integer that has no
-- positive counterpart.
theorem coerce_render_lowerCase :
    (coerce .hexInteger "0x00dEaDbEeF").map render = .ok "0xDEADBEEF" ∧
      coerce .hexInteger "0xDEADBEEF" = coerce .hexInteger "0x00dEaDbEeF" ∧
      coerce .boolean "1" = coerce .boolean "\t+02 apples" ∧
      coerce .integer (integer Int64.minValue).render = .ok (integer Int64.minValue) := by
  have ⟨hr, _, ht, _⟩ := coerce_render
  have hh : (coerce .hexInteger "0x00dEaDbEeF").map render = .ok "0xDEADBEEF" := by decide
  have hb : (coerce .boolean "\t+02 apples").map render = .ok "1" := by decide
  exact ⟨hh, (ht .hexInteger _ _ nofun hh).left, (ht .boolean _ _ nofun hb).left,
    hr (integer Int64.minValue) nofun⟩

end Value
end BuildConfig
