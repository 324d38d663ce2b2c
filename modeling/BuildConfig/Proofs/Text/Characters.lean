import Mathlib.Data.List.TakeWhile

namespace BuildConfig
namespace Text
variable {p : Char → Prop} {q : Char → Bool} {c : Char} {text run rest : List Char}

-- A property of the characters of ASCII is checked by number.
theorem forall_ascii (h : ∀ n < 128, p (Char.ofNat n)) (hc : c.toNat < 128) : p c :=
  Char.ofNat_toNat c ▸ h c.toNat hc

-- The longest start of a text that has a property throughout, and what follows it.
structure Run (p : Char → Prop) (text run rest : List Char) : Prop where
  whole : text = run ++ rest
  all   : ∀ c ∈ run, p c
  stops : ∀ c ∈ rest.head?, ¬p c

theorem run_takeWhile (h : ∀ c, q c ↔ p c) (text : List Char) :
    Run p text (text.takeWhile q) (text.dropWhile q) where
  whole := List.takeWhile_append_dropWhile.symm
  all _ hc := (h _).mp (List.mem_takeWhile_imp hc)
  stops c hc hp := by
    have hd := List.head?_dropWhile_not q text
    rw [hc] at hd
    simp [(h c).mpr hp] at hd

-- There is only one such start, which is found by going on as long as the property holds.
theorem Run.eq (h : ∀ c, q c ↔ p c) (hr : Run p text run rest) :
    text.takeWhile q = run ∧ text.dropWhile q = rest := by
  obtain ⟨rfl, ha, hs⟩ := hr
  have ha : ∀ c ∈ run, q c := fun c hc => (h c).mpr (ha c hc)
  have ⟨ht, hd⟩ : rest.takeWhile q = [] ∧ rest.dropWhile q = rest := by
    cases rest with
    | nil => exact ⟨rfl, rfl⟩
    | cons c rest =>
      have hc : ¬q c := mt (h c).mp (hs c rfl)
      exact ⟨List.takeWhile_cons_of_neg hc, List.dropWhile_cons_of_neg hc⟩
  rw [List.takeWhile_append_of_pos ha, List.dropWhile_append_of_pos ha, ht, hd, List.append_nil]
  exact ⟨rfl, rfl⟩

end Text
end BuildConfig
