import BuildConfig.Proofs.Value.Numeral
import BuildConfig.Value.Coercion
import Mathlib.Data.Option.Basic

namespace BuildConfig
namespace Value

section Literal
variable {c : Char} {text rest text₁ text₂ rest₁ rest₂ : List Char}

-- What a literal says, and what follows it, for a text behind an opening quote. A backslash takes
-- the next character as it is, and the first quote without one ends the literal.
def readLiteral? : List Char → Option (List Char × List Char)
  | []              => none
  | '"' :: rest     => some ([], rest)
  | '\\' :: c :: cs => (readLiteral? cs).map fun (text, rest) => (c :: text, rest)
  | c :: cs         => (readLiteral? cs).map fun (text, rest) => (c :: text, rest)

theorem readLiteral?_cons (hq : c ≠ '"') (hb : c ≠ '\\') :
    readLiteral? (c :: text) = (readLiteral? text).map fun (text, rest) => (c :: text, rest) := by
  rw [readLiteral?]
  all_goals simp_all

-- However many quotes and backslashes a text holds, its literal ends where it was ended.
theorem readLiteral?_escape :
    readLiteral? (text.flatMap escape ++ '"' :: rest) = some (text, rest) := by
  induction text with
  | nil => rfl
  | cons c text ih =>
    rw [List.flatMap_cons, List.append_assoc, escape]
    by_cases h : c = '"' ∨ c = '\\'
    case pos =>
      rw [if_pos h]
      simp [readLiteral?, ih]
    case neg =>
      have ⟨hq, hb⟩ := not_or.mp h
      rw [if_neg h, List.singleton_append, readLiteral?_cons hq hb, ih]
      rfl

-- No literal is the start of another one.
theorem literal_append_inj (h : literal text₁ ++ rest₁ = literal text₂ ++ rest₂) :
    text₁ = text₂ ∧ rest₁ = rest₂ := by
  have h : text₁.flatMap escape ++ '"' :: rest₁ = text₂.flatMap escape ++ '"' :: rest₂ := by
    simpa [literal] using h
  have hr := congrArg readLiteral? h
  simpa [readLiteral?_escape] using hr

theorem literal_injective (h : literal text₁ = literal text₂) : text₁ = text₂ :=
  (literal_append_inj (congrArg (· ++ []) h)).left

theorem mem_literal (h : c ∈ literal text) : c = '"' ∨ c = '\\' ∨ c ∈ text := by
  simp only [literal, List.cons_append, List.mem_cons, List.mem_append, List.mem_flatMap, escape] at h
  grind

end Literal

section Words
variable {base : Nat} {digits : List Char} {w : UInt64}

theorem readWord?_of_read? (h : Numeral.read? base digits = some w.toNat) :
    readWord? base digits = some w := by
  have hr : guard (w.toNat < UInt64.size) = some () :=
    (Option.guard_eq_some' ()).mpr w.toNat_lt_size
  rw [readWord?, h, Option.bind_eq_bind, Option.bind_some, hr]
  exact congrArg some UInt64.ofNat_toNat

theorem readInteger?_of_readSigned? {text : List Char} {n : Int64}
    (h : Numeral.readSigned? text = some n.toInt) : readInteger? text = some n := by
  have hr : guard (Int64.minValue.toInt ≤ n.toInt ∧ n.toInt ≤ Int64.maxValue.toInt) = some () :=
    (Option.guard_eq_some' ()).mpr ⟨n.minValue_le_toInt, n.toInt_le⟩
  rw [readInteger?, h, Option.bind_eq_bind, Option.bind_some, hr]
  exact congrArg some n.ofInt_toInt

theorem readUnsigned?_of_read? (h : Numeral.read? 10 digits = some w.toNat) :
    readUnsigned? digits = some w := by
  have hp : '+' ∉ digits := Numeral.not_mem_of_read? h (by decide)
  unfold readUnsigned?
  split
  case h_1 => exact absurd List.mem_cons_self hp
  case h_2 => exact readWord?_of_read? h

end Words

variable {v v₁ v₂ : Value} {type : ValueType} {text : String}

-- Values of all types but one are read back from the form in which they are rendered.
theorem read?_render (h : v.type ≠ .string) : read? v.type v.render = some v := by
  cases v with
  | string text => exact absurd rfl h
  | integer n =>
    change ((readInteger? (String.ofList _).toList).map integer) = _
    rw [String.toList_ofList, readInteger?_of_readSigned? Numeral.readSigned?_writeSigned]
    rfl
  | hexInteger w =>
    change ((readHex? (String.ofList _).toList).map hexInteger) = _
    rw [String.toList_ofList, readHex?, readWord?_of_read? Numeral.read?_writeHex]
    rfl
  | unsignedInteger w =>
    change ((readUnsigned? (String.ofList _).toList).map unsignedInteger) = _
    rw [String.toList_ofList, readUnsigned?_of_read? Numeral.read?_writeDecimal]
    rfl
  | boolean b => cases b <;> decide

-- Two values of one type are told apart by the text that they are rendered to.
theorem render_injective (ht : v₁.type = v₂.type) (h : v₁.render = v₂.render) : v₁ = v₂ := by
  by_cases hs : v₁.type = .string
  case neg =>
    have h₁ := read?_render hs
    have h₂ := read?_render (ht ▸ hs)
    rw [ht, h, h₂] at h₁
    exact (Option.some.inj h₁).symm
  case pos =>
    cases v₁ with
    | string text₁ =>
      cases v₂ with
      | string text₂ =>
        have hl : literal text₁.toList = literal text₂.toList := String.ofList_injective h
        exact congrArg string (String.toList_injective (literal_injective hl))
      | _ => contradiction
    | _ => contradiction

-- A line feed gets into a rendered value only with a text that has one.
theorem newline_not_mem_render (h : ∀ text, v = string text → '\n' ∉ text.toList) :
    '\n' ∉ v.render.toList := by
  have hd {n : Nat} : '\n' ∉ Numeral.writeDecimal n :=
    Numeral.not_mem_of_read? Numeral.read?_writeDecimal (by decide)
  have hh {n : Nat} : '\n' ∉ Numeral.writeHex n :=
    Numeral.not_mem_of_read? Numeral.read?_writeHex (by decide)
  cases v with
  | string text =>
    rw [render, String.toList_ofList]
    intro hm
    rcases mem_literal hm with hc | hc | hc
    case inl     => contradiction
    case inr.inl => contradiction
    case inr.inr => exact h text rfl hc
  | integer n =>
    rw [render, String.toList_ofList, Numeral.writeSigned]
    split
    case isTrue  => exact List.not_mem_cons_of_ne_of_not_mem (by decide) hd
    case isFalse => exact hd
  | hexInteger w      => simp [render, hh]
  | unsignedInteger w => simp [render, hd]
  | boolean b         => cases b <;> decide

theorem newline_not_mem_render_of_read? (h : read? type text = some v)
    (ht : '\n' ∉ text.toList) : '\n' ∉ v.render.toList := by
  apply newline_not_mem_render
  rintro text' rfl
  cases type_of_read? h
  cases h
  exact ht

end Value
end BuildConfig
