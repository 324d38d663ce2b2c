import BuildConfig.Options
import BuildConfig.Proofs.Files.Writing
import BuildConfig.Proofs.Text.Characters
import BuildConfig.Settings.Load
import Mathlib.Computability.RegularExpressions

namespace BuildConfig

-- Identifiers of C as a regular expression, `[A-Za-z_][A-Za-z0-9_]*`.
namespace Identifier

def starts : List Char :=
  "ABCDEFGHIJKLMNOPQRSTUVWXYZabcdefghijklmnopqrstuvwxyz_".toList

def rests : List Char :=
  starts ++ "0123456789".toList

-- Any one character of a list.
def oneOf : List Char → RegularExpression Char
  | []      => .zero
  | c :: cs => .plus (.char c) (oneOf cs)

def expression : RegularExpression Char :=
  .comp (oneOf starts) (.star (oneOf rests))

-- The whole of a text is an identifier.
def Matches (text : String) : Prop :=
  text.toList ∈ expression.matches'

variable {c : Char} {chars cs : List Char} {text : String}

theorem mem_oneOf_iff : cs ∈ (oneOf chars).matches' ↔ ∃ c ∈ chars, cs = [c] := by
  induction chars with
  | nil =>
    refine ⟨fun h => (Language.notMem_zero cs h).elim, ?_⟩
    rintro ⟨_, hc, _⟩
    cases hc
  | cons c chars ih =>
    have h : cs ∈ (oneOf (c :: chars)).matches' ↔ cs = [c] ∨ cs ∈ (oneOf chars).matches' := Iff.rfl
    rw [h, ih, List.exists_mem_cons_iff]

theorem mem_star_oneOf_iff :
    cs ∈ (RegularExpression.star (oneOf chars)).matches' ↔ ∀ c ∈ cs, c ∈ chars := by
  rw [RegularExpression.matches'_star, Language.mem_kstar]
  constructor
  case mp =>
    rintro ⟨words, rfl, hw⟩ c hc
    obtain ⟨word, hm, hc⟩ := List.mem_flatten.mp hc
    obtain ⟨c', hc', rfl⟩ := mem_oneOf_iff.mp (hw word hm)
    exact List.mem_singleton.mp hc ▸ hc'
  case mpr =>
    intro h
    refine ⟨cs.map ([·]), (List.flatMap_singleton' cs).symm, fun word hw => ?_⟩
    obtain ⟨c, hc, rfl⟩ := List.mem_map.mp hw
    exact mem_oneOf_iff.mpr ⟨c, h c hc, rfl⟩

-- A text of identifier characters that does not start with a digit, and nothing else.
theorem matches_iff :
    Matches text ↔ ∃ c cs, text.toList = c :: cs ∧ c ∈ starts ∧ ∀ c ∈ cs, c ∈ rests := by
  have h : Matches text ↔ ∃ first ∈ (oneOf starts).matches',
      ∃ rest ∈ (RegularExpression.star (oneOf rests)).matches', first ++ rest = text.toList :=
    Language.mem_mul
  rw [h]
  constructor
  case mp =>
    rintro ⟨_, hf, rest, hr, ht⟩
    obtain ⟨c, hc, rfl⟩ := mem_oneOf_iff.mp hf
    exact ⟨c, rest, ht.symm, hc, mem_star_oneOf_iff.mp hr⟩
  case mpr =>
    rintro ⟨c, rest, ht, hc, hr⟩
    exact ⟨[c], mem_oneOf_iff.mpr ⟨c, hc, rfl⟩, rest, mem_star_oneOf_iff.mpr hr, ht.symm⟩

theorem Matches.mem_rests (h : Matches text) (hc : c ∈ text.toList) : c ∈ rests := by
  obtain ⟨c', cs, ht, hs, hr⟩ := matches_iff.mp h
  rw [ht] at hc
  rcases List.mem_cons.mp hc with rfl | hc
  case inl => exact List.mem_append_left _ hs
  case inr => exact hr c hc

theorem toNat_lt_of_isIdentifierRest (h : Settings.isIdentifierRest c) : c.toNat < 128 := by
  rcases of_decide_eq_true h with h | rfl
  case inr => decide
  case inl =>
    have h : ((decide (c.val ≥ 'A'.val ∧ c.val ≤ 'Z'.val) || (c.val ≥ 'a'.val && c.val ≤ 'z'.val)) ||
      (c.val ≥ '0'.val && c.val ≤ '9'.val)) = true := h
    simp only [Bool.or_eq_true, Bool.and_eq_true, decide_eq_true_eq, UInt32.le_iff_toNat_le,
      ge_iff_le] at h
    have hc : c.toNat = c.val.toNat := rfl
    have hZ : 'Z'.val.toNat = 90 := rfl
    have hz : 'z'.val.toNat = 122 := rfl
    have h9 : '9'.val.toNat = 57 := rfl
    omega

theorem mem_rests_iff : c ∈ rests ↔ Settings.isIdentifierRest c := by
  constructor
  case mp  =>
    have h : rests.all Settings.isIdentifierRest := by decide +kernel
    exact List.all_eq_true.mp h c
  case mpr =>
    intro h
    exact Text.forall_ascii (p := fun c => Settings.isIdentifierRest c → c ∈ rests) (by decide +kernel)
      (toNat_lt_of_isIdentifierRest h) h

theorem mem_starts_iff : c ∈ starts ↔ Settings.isIdentifierStart c := by
  constructor
  case mp  =>
    have h : starts.all Settings.isIdentifierStart := by decide +kernel
    exact List.all_eq_true.mp h c
  case mpr =>
    intro h
    have hr : Settings.isIdentifierRest c := by
      simp only [Settings.isIdentifierStart, Settings.isIdentifierRest, Char.isAlphanum,
        decide_eq_true_eq, Bool.or_eq_true] at h ⊢
      exact h.imp_left .inl
    exact Text.forall_ascii (p := fun c => Settings.isIdentifierStart c → c ∈ starts) (by decide +kernel)
      (toNat_lt_of_isIdentifierRest hr) h

theorem isIdentifier_iff : Settings.isIdentifier text ↔ Matches text := by
  rw [matches_iff, Settings.isIdentifier]
  cases text.toList with
  | nil => simp
  | cons c cs => simp [← mem_starts_iff, ← mem_rests_iff]

end Identifier

-- Names that can be emitted are made of identifiers, or of nothing in front of a declared name.
structure Naming.Fits (naming : Naming) : Prop where
  guard      : Identifier.Matches naming.guard
  namePrefix : naming.namePrefix = "" ∨ Identifier.Matches naming.namePrefix

namespace Naming.Fits
variable {naming : Naming} {c : Char}

protected theorem default : Naming.Fits {} where
  guard      := Identifier.isIdentifier_iff.mp (by decide +kernel)
  namePrefix := .inr (Identifier.isIdentifier_iff.mp (by decide +kernel))

theorem mem_rests_of_mem_guard (h : naming.Fits) (hc : c ∈ naming.guard.toList) :
    c ∈ Identifier.rests :=
  h.guard.mem_rests hc

theorem mem_rests_of_mem_namePrefix (h : naming.Fits) (hc : c ∈ naming.namePrefix.toList) :
    c ∈ Identifier.rests := by
  rcases h.namePrefix with he | hm
  case inl =>
    rw [he] at hc
    cases hc
  case inr => exact hm.mem_rests hc

end Naming.Fits

namespace Settings
variable {s : Settings} {setting : NameSetting} {isValid : String → Bool} {name? : Option String}
variable {path content : String}

theorem checkName_eq_ok_iff :
    checkName setting isValid name? = .ok () ↔ ∀ name ∈ name?, isValid name := by
  cases name? with
  | none => simp [checkName]
  | some name => by_cases h : isValid name <;> simp [checkName, h]

theorem checkNames_eq_ok_iff :
    s.checkNames = .ok () ↔
      (∀ name ∈ s.namePrefix, name = "" ∨ Identifier.Matches name) ∧
        ∀ name ∈ s.guard, Identifier.Matches name := by
  rw [checkNames, bind_eq_ok_iff, Unique.exists_iff]
  simp [checkName_eq_ok_iff, Identifier.isIdentifier_iff]

-- What the settings leave open falls to the defaults, and these are identifiers.
theorem fits_naming_of_checkNames (h : s.checkNames = .ok ()) : s.naming.Fits := by
  have ⟨hp, hg⟩ := checkNames_eq_ok_iff.mp h
  constructor
  case guard =>
    cases hs : s.guard with
    | none      => simpa [naming, hs] using Naming.Fits.default.guard
    | some name => simpa [naming, hs] using hg name hs
  case namePrefix =>
    cases hs : s.namePrefix with
    | none      => simpa [naming, hs] using Naming.Fits.default.namePrefix
    | some name => simpa [naming, hs] using hp name hs

-- Only paths are made relative to a directory.
theorem naming_rebase : (s.rebase path).naming = s.naming := by
  rw [rebase]
  split <;> rfl

theorem fits_naming_of_ofContent (h : ofContent path content = .ok s) : s.naming.Fits := by
  obtain ⟨read, _, h⟩ := bind_eq_ok_iff.mp h
  obtain ⟨_, hc, h⟩ := bind_eq_ok_iff.mp h
  cases h
  rw [naming_rebase]
  exact fits_naming_of_checkNames hc

end Settings
end BuildConfig
