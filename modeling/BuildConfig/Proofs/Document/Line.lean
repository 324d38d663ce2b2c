import BuildConfig.Document.Line
import BuildConfig.Proofs.Text.Trim
import Mathlib.Data.List.Chain

namespace BuildConfig
namespace Document

open Text

-- No `;` of such a text follows a blank, so nothing in it reads as a comment.
def Unmarked (cs : List Char) : Prop :=
  cs.IsChain fun a b => ¬(isBlank a ∧ b = ';')

instance : DecidablePred Unmarked :=
  fun _ => inferInstanceAs (Decidable (List.IsChain _ _))

-- What is left of a text that is cut before the first `;` that follows a blank.
structure Uncommented (text kept : List Char) : Prop where
  start    : kept <+: text
  unmarked : Unmarked kept
  stops    : kept = text ∨ (kept ++ [';'] <+: text ∧ ¬Unmarked (kept ++ [';']))

theorem Unmarked.of_isInfix {cs₁ cs₂ : List Char} (h : Unmarked cs₂) (hi : cs₁ <:+: cs₂) :
    Unmarked cs₁ :=
  List.IsChain.infix h hi

theorem unmarked_cons_cons {a b : Char} {cs : List Char} :
    Unmarked (a :: b :: cs) ↔ ¬(isBlank a ∧ b = ';') ∧ Unmarked (b :: cs) :=
  List.isChain_cons_cons

theorem uncomment_cons_of_mark {a : Char} {cs : List Char} (h : isBlank a) :
    uncomment (isBlank a) (';' :: cs) = [] := by
  simp [uncomment, h]

theorem uncomment_cons {a b : Char} {cs : List Char} (h : ¬(isBlank a ∧ b = ';')) :
    uncomment (isBlank a) (b :: cs) = b :: uncomment (isBlank b) cs := by
  rw [uncomment, if_neg fun ⟨hb, ha⟩ => h ⟨ha, hb⟩]

-- The two ways in which the cut can end, for a text that is read after the character `a`.
theorem uncomment_after {a : Char} {cs : List Char} :
    Unmarked (a :: uncomment (isBlank a) cs) ∧
      (uncomment (isBlank a) cs = cs ∨
        uncomment (isBlank a) cs ++ [';'] <+: cs ∧
          ¬Unmarked (a :: uncomment (isBlank a) cs ++ [';'])) := by
  induction cs generalizing a with
  | nil => exact ⟨List.isChain_singleton a, .inl rfl⟩
  | cons b cs ih =>
    by_cases h : isBlank a ∧ b = ';'
    case pos =>
      obtain ⟨ha, rfl⟩ := h
      rw [uncomment_cons_of_mark ha]
      refine ⟨List.isChain_singleton a, .inr ⟨by simp, fun hu => ?_⟩⟩
      exact (unmarked_cons_cons.mp hu).left ⟨ha, rfl⟩
    case neg =>
      rw [uncomment_cons h]
      have ⟨hu, hs⟩ := @ih b
      refine ⟨unmarked_cons_cons.mpr ⟨h, hu⟩, ?_⟩
      cases hs
      case inl hs => exact .inl (congrArg (b :: ·) hs)
      case inr hs =>
        refine .inr ⟨List.prefix_cons_inj b |>.mpr hs.left, fun hm => hs.right ?_⟩
        exact (unmarked_cons_cons.mp hm).right

theorem uncomment_isPrefix {cs : List Char} {afterBlank : Bool} :
    uncomment afterBlank cs <+: cs := by
  induction cs generalizing afterBlank with
  | nil => exact List.prefix_rfl
  | cons c cs ih =>
    rw [uncomment]
    split
    · exact List.nil_prefix
    · exact List.prefix_cons_inj c |>.mpr ih

theorem uncommented_uncomment {cs : List Char} : Uncommented cs (uncomment false cs) where
  start := uncomment_isPrefix
  unmarked := by
    cases cs with
    | nil => exact List.isChain_nil
    | cons c cs => simpa [uncomment] using uncomment_after.left
  stops := by
    cases cs with
    | nil => exact .inl rfl
    | cons c cs => simpa [uncomment] using (@uncomment_after c cs).right

-- A longer cut would contain the mark at which the shorter one stops.
theorem Uncommented.length_le {text kept₁ kept₂ : List Char} (h₁ : Uncommented text kept₁)
    (h₂ : Uncommented text kept₂) : kept₂.length ≤ kept₁.length := by
  cases h₁.stops
  case inl h => exact h ▸ h₂.start.length_le
  case inr h =>
    by_contra hl
    have hp : kept₁ ++ [';'] <+: kept₂ :=
      List.prefix_of_prefix_length_le h.left h₂.start (by simp; omega)
    exact h.right (h₂.unmarked.of_isInfix hp.isInfix)

theorem Uncommented.unique {text kept₁ kept₂ : List Char} (h₁ : Uncommented text kept₁)
    (h₂ : Uncommented text kept₂) : kept₁ = kept₂ :=
  (List.prefix_of_prefix_length_le h₁.start h₂.start (h₂.length_le h₁)).eq_of_length_le
    (h₁.length_le h₂)

theorem uncomment_eq_self {cs : List Char} (h : Unmarked cs) : uncomment false cs = cs :=
  uncommented_uncomment.unique ⟨List.prefix_rfl, h, .inl rfl⟩

theorem valueText_eq_self {cs : List Char} (hu : Unmarked cs) (ht : Trimmed cs) :
    valueText cs = String.ofList cs := by
  rw [valueText, uncomment_eq_self hu, trim_eq_self_iff.mpr ht]

-- The parts of a text before and after its first character of a kind.
structure SplitsAt (p : Char → Bool) (text before after : List Char) : Prop where
  first  : ∀ c ∈ before, p c = false
  joined : ∃ c, p c ∧ text = before ++ c :: after

theorem SplitsAt.exists_mem {p : Char → Bool} {text before after : List Char}
    (h : SplitsAt p text before after) : ∃ c ∈ text, p c := by
  obtain ⟨c, hc, rfl⟩ := h.joined
  exact ⟨c, by simp, hc⟩

theorem splitAt?_eq_some_iff {p : Char → Bool} {text before after : List Char} :
    splitAt? p text = some (before, after) ↔ SplitsAt p text before after := by
  refine ⟨fun h => ?_, fun ⟨hb, c, hc, ht⟩ => ht ▸ splitAt?_append hb hc⟩
  induction text generalizing before with
  | nil => cases h
  | cons c text ih =>
    cases hc : p c
    case true =>
      simp only [splitAt?, hc, if_true, Option.some.injEq, Prod.mk.injEq] at h
      obtain ⟨rfl, rfl⟩ := h
      exact ⟨by simp, c, hc, rfl⟩
    case false =>
      simp only [splitAt?, hc, Bool.false_eq_true, if_false, Option.map_eq_some_iff] at h
      obtain ⟨⟨before', after'⟩, hs, he⟩ := h
      simp only [Prod.mk.injEq] at he
      obtain ⟨rfl, rfl⟩ := he
      have ⟨hb, d, hd, ht⟩ := ih hs
      exact ⟨List.forall_mem_cons.mpr ⟨hc, hb⟩, d, hd, congrArg (c :: ·) ht⟩

theorem SplitsAt.unique {p : Char → Bool} {text before₁ after₁ before₂ after₂ : List Char}
    (h₁ : SplitsAt p text before₁ after₁) (h₂ : SplitsAt p text before₂ after₂) :
    before₁ = before₂ ∧ after₁ = after₂ := by
  have h := (splitAt?_eq_some_iff.mpr h₁).symm.trans (splitAt?_eq_some_iff.mpr h₂)
  simpa using h

theorem forall_or_splitsAt (p : Char → Bool) (text : List Char) :
    (∀ c ∈ text, p c = false) ∨ ∃ before after, SplitsAt p text before after := by
  cases h : splitAt? p text with
  | none => exact .inl (splitAt?_eq_none_iff.mp h)
  | some parts => exact .inr ⟨parts.1, parts.2, splitAt?_eq_some_iff.mp h⟩

-- The ends of a line do not tell how it is read.
theorem Line.ofChars_trimEnd {cs : List Char} : Line.ofChars (trimEnd cs) = Line.ofChars cs := by
  unfold Line.ofChars
  rw [trim_trimEnd]
  by_cases h : trimEnd cs = []
  case pos =>
    have : trim cs = [] := by rw [trim_eq_trimStart_trimEnd, h]; rfl
    simp [this]
  case neg => rw [head?_trimEnd h]

namespace Statement

variable {cs before after : List Char}

theorem ofHeading_of_splitsAt (h : SplitsAt (· = ']') cs before after) :
    ofHeading cs = .ok (.heading (String.ofList (trim before))) := by
  rw [ofHeading, splitAt?_eq_some_iff.mpr h]

theorem ofHeading_of_not_mem (h : ']' ∉ cs) : ofHeading cs = .error .unterminatedHeading := by
  have hn : splitAt? (· = ']') cs = none :=
    splitAt?_eq_none_iff.mpr fun c hc => by simpa using ne_of_mem_of_not_mem hc h
  rw [ofHeading, hn]

theorem ofPair_of_splitsAt (h : SplitsAt isDelimiter cs before after) (hk : trim before ≠ []) :
    ofPair cs = .ok (.pair (String.ofList (trim before)) (valueText after)) := by
  simp only [ofPair, splitAt?_eq_some_iff.mpr h]

theorem ofPair_of_blank (h : SplitsAt isDelimiter cs before after) (hk : trim before = []) :
    ofPair cs = .error .emptyKey := by
  simp only [ofPair, splitAt?_eq_some_iff.mpr h, hk]

theorem ofPair_of_no_delimiter (h : ∀ c ∈ cs, isDelimiter c = false) :
    ofPair cs = .error .missingDelimiter := by
  rw [ofPair, splitAt?_eq_none_iff.mpr h]

theorem ofBody_of_bracket (h : cs.head? = some '[') : ofBody cs = ofHeading cs.tail := by
  obtain ⟨rest, rfl⟩ := List.head?_eq_some_iff.mp h
  rfl

theorem ofBody_of_no_bracket (h : cs.head? ≠ some '[') : ofBody cs = ofPair cs := by
  unfold ofBody
  split
  case h_1 => exact absurd rfl h
  case h_2 => rfl

end Statement
end Document
end BuildConfig
