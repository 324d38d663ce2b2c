import BuildConfig.Proofs.Value.Positional
import BuildConfig.Value.Coercion

namespace BuildConfig
namespace Numeral

-- The white space of C.
def blanks : List Char :=
  [' ', '\t', '\n', '\x0b', '\x0c', '\r']

-- The number that C reads from the start of a text. White space and one sign are skipped, and all digits
-- are taken that come then. Without any the number is zero. The rest may be anything.
inductive Leads (text : List Char) (n : Nat) : Prop
  | intro {skipped signed sign unsigned digits rest}
    (hb : Text.Run (· ∈ blanks) text skipped signed)
    (hs : SignedBy signed sign unsigned)
    (hd : Text.Run (fun c => ∃ d, IsDigit 10 c d) unsigned digits rest)
    (hn : Denotes 10 digits n)

def isDecimal (c : Char) : Bool :=
  (digit? 10 c).isSome

-- The digits behind white space and a sign.
def leadingDigits (text : List Char) : List Char :=
  (splitSign (text.dropWhile Value.isNumberBlank)).2.takeWhile isDecimal

variable {text : List Char} {c : Char} {n : Nat}

theorem isNumberBlank_iff (c : Char) : Value.isNumberBlank c ↔ c ∈ blanks := by
  simp [Value.isNumberBlank, blanks]

theorem isDecimal_iff (c : Char) : isDecimal c ↔ ∃ d, IsDigit 10 c d :=
  isSome_digit?_iff (by decide)

theorem leads_iff : Leads text n ↔ Denotes 10 (leadingDigits text) n := by
  constructor
  case mp =>
    intro ⟨hb, hs, hd, hn⟩
    rw [leadingDigits, (hb.eq isNumberBlank_iff).right, splitSign_eq_iff.mpr hs,
      (hd.eq isDecimal_iff).left]
    exact hn
  case mpr =>
    have hb := Text.run_takeWhile isNumberBlank_iff text
    exact .intro hb (splitSign_eq_iff.mp rfl) (Text.run_takeWhile isDecimal_iff _)

-- Every text starts with one number in this sense.
theorem existsUnique_leads : ∃! n, Leads text n := by
  have ⟨n, hn⟩ : ∃ n, Denotes 10 (leadingDigits text) n :=
    exists_denotes (Text.run_takeWhile isDecimal_iff _).all
  exact ⟨n, leads_iff.mpr hn, fun _ hm => (leads_iff.mp hm).unique (by decide) hn⟩

theorem isDecimal_iff_of_ne (h : c ≠ '0') : isDecimal c ↔ '1' ≤ c ∧ c ≤ '9' := by
  let p (c : Char) : Prop := c ≠ '0' → (isDecimal c ↔ '1' ≤ c ∧ c ≤ '9')
  by_cases hc : c.toNat < 128
  case pos =>
    have hp : p c := Text.forall_ascii (by decide +kernel) hc
    exact hp h
  case neg =>
    refine iff_of_false (fun hd => hc ?_) fun hr => hc (Nat.lt_of_le_of_lt hr.right (by decide))
    have ⟨d, hd⟩ := (isDecimal_iff c).mp hd
    exact toNat_lt_of_worth? (worth?_of_row (by have := hd.lt; omega) hd.row)

end Numeral

namespace Value
variable {text : List Char}

theorem startsWithNonzero_eq :
    startsWithNonzero text =
      ((Numeral.splitSign (text.dropWhile isNumberBlank)).2.dropWhile (· = '0')).head?.any
        fun c => '1' ≤ c ∧ c ≤ '9' := by
  rw [startsWithNonzero]
  dsimp only
  split
  case h_1 h => rw [h]; rfl
  case h_2 h => rw [h]; rfl

-- The induction goes over the zeros, of which there may be any number.
theorem any_head?_dropWhile_iff :
    ((text.dropWhile (· = '0')).head?.any fun c => '1' ≤ c ∧ c ≤ '9') ↔
      ∃ c ∈ text.takeWhile Numeral.isDecimal, c ≠ '0' := by
  induction text with
  | nil => simp
  | cons c text ih =>
    by_cases hc : c = '0'
    case pos =>
      have hd : Numeral.isDecimal '0' := rfl
      rw [hc, List.dropWhile_cons_of_pos (by rfl), ih, List.takeWhile_cons_of_pos hd]
      simp
    case neg =>
      have hd := Numeral.isDecimal_iff_of_ne hc
      rw [List.dropWhile_cons_of_neg (by simpa using hc)]
      by_cases hd' : Numeral.isDecimal c
      case pos => simp [List.takeWhile_cons_of_pos hd', hc, hd.mp hd']
      case neg => simpa [List.takeWhile_cons_of_neg hd'] using mt hd.mpr hd'

theorem startsWithNonzero_iff :
    startsWithNonzero text ↔ ∃ c ∈ Numeral.leadingDigits text, c ≠ '0' := by
  rw [startsWithNonzero_eq, any_head?_dropWhile_iff, Numeral.leadingDigits]

-- A text is true if it is the word for it, or if C reads a number other than zero from its start.
theorem truth_iff (text : String) :
    (∃! n, Numeral.Leads text.toList n) ∧
      (truth text ↔ text = "true" ∨ ∃ n, Numeral.Leads text.toList n ∧ n ≠ 0) := by
  refine ⟨Numeral.existsUnique_leads, ?_⟩
  have ⟨n, hn, hu⟩ := @Numeral.existsUnique_leads text.toList
  have hz : n = 0 ↔ ∀ c ∈ Numeral.leadingDigits text.toList, c = '0' :=
    (Numeral.leads_iff.mp hn).eq_zero_iff (by decide)
  have hs : startsWithNonzero text.toList ↔ n ≠ 0 := by
    simp only [startsWithNonzero_iff, ne_eq, hz, not_forall, exists_prop]
  have he : (∃ n, Numeral.Leads text.toList n ∧ n ≠ 0) ↔ n ≠ 0 :=
    ⟨fun ⟨m, hm, h⟩ => hu m hm ▸ h, fun h => ⟨n, hn, h⟩⟩
  rw [he, ← hs, truth, Bool.or_eq_true, decide_eq_true_eq]

-- The digits end at one that is not of ASCII, and a second sign is no digit either.
example : truth " +007 apples" ∧ ¬truth "\t-00٣7" ∧ ¬truth "+-1" := by
  decide

end Value
end BuildConfig
