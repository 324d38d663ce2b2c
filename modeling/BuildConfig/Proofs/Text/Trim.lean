import BuildConfig.Text.Blank
import Mathlib.Data.List.DropRight

namespace BuildConfig
namespace Text

-- A text with no blank at either end.
structure Trimmed (cs : List Char) : Prop where
  first : ∀ c ∈ cs.head?, isBlank c = false
  last  : ∀ c ∈ cs.getLast?, isBlank c = false

theorem trimStart_eq_self_iff {cs : List Char} :
    trimStart cs = cs ↔ ∀ c ∈ cs.head?, isBlank c = false := by
  rw [trimStart]
  cases cs with
  | nil => simp
  | cons c cs =>
    cases h : isBlank c
    case false => simp [h]
    case true =>
      simp only [List.dropWhile_cons, h, List.head?_cons]
      have := (List.dropWhile_suffix isBlank (l := cs)).length_le
      refine iff_of_false (fun he => ?_) (by simp [h])
      have := congrArg List.length he
      simp only [if_true, List.length_cons] at this
      omega

theorem trimEnd_eq_reverse {cs : List Char} : trimEnd cs = (trimStart cs.reverse).reverse :=
  rfl

theorem trimEnd_eq_self_iff {cs : List Char} :
    trimEnd cs = cs ↔ ∀ c ∈ cs.getLast?, isBlank c = false := by
  rw [trimEnd_eq_reverse, List.reverse_eq_iff, trimStart_eq_self_iff, List.head?_reverse]

theorem trimEnd_isPrefix {cs : List Char} : trimEnd cs <+: cs :=
  List.rdropWhile_prefix isBlank cs

theorem trimStart_isSuffix {cs : List Char} : trimStart cs <:+ cs :=
  List.dropWhile_suffix isBlank

theorem trim_isInfix {cs : List Char} : trim cs <:+: cs :=
  trimEnd_isPrefix.isInfix.trans trimStart_isSuffix.isInfix

theorem head?_trimStart {cs : List Char} : ∀ c ∈ (trimStart cs).head?, isBlank c = false := by
  intro c hc
  have h := List.head?_dropWhile_not isBlank cs
  rw [show (cs.dropWhile isBlank).head? = some c from hc] at h
  simpa using h

theorem getLast?_trimEnd {cs : List Char} : ∀ c ∈ (trimEnd cs).getLast?, isBlank c = false := by
  rw [trimEnd_eq_reverse, List.getLast?_reverse]
  exact head?_trimStart

theorem trimEnd_trimEnd {cs : List Char} : trimEnd (trimEnd cs) = trimEnd cs :=
  trimEnd_eq_self_iff.mpr getLast?_trimEnd

-- Cutting the end of a text does not change how it starts, unless nothing is left of it.
theorem head?_trimEnd {cs : List Char} (h : trimEnd cs ≠ []) : (trimEnd cs).head? = cs.head? := by
  have ⟨rest, hr⟩ : trimEnd cs <+: cs := trimEnd_isPrefix
  have ⟨c, kept, hk⟩ := List.exists_cons_of_ne_nil h
  rw [hk] at hr ⊢
  rw [← hr]
  rfl

theorem trimEnd_cons {c : Char} {cs : List Char} :
    trimEnd (c :: cs) = if trimEnd cs = [] ∧ isBlank c then [] else c :: trimEnd cs := by
  by_cases h : trimEnd cs = []
  case pos =>
    have hb : cs.reverse.dropWhile isBlank = [] :=
      List.dropWhile_eq_nil_iff.mpr fun b hb => trimEnd_eq_nil_iff.mp h b (List.mem_reverse.mp hb)
    cases hc : isBlank c <;> simp [trimEnd, List.dropWhile_append, hb, hc]
  case neg =>
    have hb : cs.reverse.dropWhile isBlank ≠ [] := fun hn => h (by simp [trimEnd, hn])
    simp [trimEnd, List.dropWhile_append, hb]

-- It does not matter which end of a text is cut first.
theorem trimEnd_trimStart {cs : List Char} : trimEnd (trimStart cs) = trimStart (trimEnd cs) := by
  induction cs with
  | nil => rfl
  | cons c cs ih =>
    cases hc : isBlank c
    case false => simp [trimStart, trimEnd_cons, hc]
    case true =>
      have hs : trimStart (c :: cs) = trimStart cs := by simp [trimStart, hc]
      rw [hs, ih, trimEnd_cons]
      by_cases hn : trimEnd cs = [] <;> simp [trimStart, hc, hn]

theorem trim_eq_trimStart_trimEnd {cs : List Char} : trim cs = trimStart (trimEnd cs) :=
  trimEnd_trimStart

theorem trim_trimEnd {cs : List Char} : trim (trimEnd cs) = trim cs := by
  rw [trim_eq_trimStart_trimEnd, trimEnd_trimEnd, ← trim_eq_trimStart_trimEnd]

theorem trimmed_trim {cs : List Char} : Trimmed (trim cs) where
  first := trim_eq_trimStart_trimEnd ▸ head?_trimStart
  last  := getLast?_trimEnd

theorem trim_eq_self_iff {cs : List Char} : trim cs = cs ↔ Trimmed cs where
  mp h  := h ▸ trimmed_trim
  mpr h := by rw [trim, trimStart_eq_self_iff.mpr h.first, trimEnd_eq_self_iff.mpr h.last]

instance : DecidablePred Trimmed :=
  fun _ => decidable_of_iff _ trim_eq_self_iff

theorem trim_eq_nil_iff {cs : List Char} : trim cs = [] ↔ ∀ c ∈ cs, isBlank c := by
  rw [trim_eq_trimStart_trimEnd, trimStart_eq_nil_iff]
  refine ⟨fun h => ?_, fun h c hc => h c (trimEnd_isPrefix.subset hc)⟩
  have : trimEnd cs = [] := by
    by_contra hn
    have hl := getLast?_trimEnd _ (List.getLast?_eq_some_getLast hn)
    simp [h _ (List.getLast_mem hn)] at hl
  exact trimEnd_eq_nil_iff.mp this

-- What starts like a text without leading blanks keeps that start when it is trimmed.
theorem head?_trim_of_isPrefix {cs₁ cs₂ : List Char} (h : cs₁ <+: trimStart cs₂)
    (hn : trim cs₁ ≠ []) : (trim cs₁).head? = (trimStart cs₂).head? := by
  have hne : cs₁ ≠ [] := by
    rintro rfl
    exact hn rfl
  have hh : cs₁.head? = (trimStart cs₂).head? := by
    have ⟨rest, hr⟩ := h
    rw [← hr, List.head?_append_of_ne_nil _ hne]
  have hs : trimStart cs₁ = cs₁ := trimStart_eq_self_iff.mpr (hh ▸ head?_trimStart)
  rw [trim, hs] at hn ⊢
  rw [head?_trimEnd hn, hh]

end Text
end BuildConfig
