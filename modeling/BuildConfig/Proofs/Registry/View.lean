import BuildConfig.Registry.Basic
import Mathlib.Data.List.Basic
import Mathlib.Data.List.Induction

namespace BuildConfig
namespace Registry

variable {r r₁ r₂ : Registry}

theorem find?_of_mem {d : Definition} (hn : r.names.Nodup) (h : d ∈ r.definitions) :
    r.find? d.name = some d := by
  obtain ⟨definitions⟩ := r
  induction definitions with
  | nil => cases h
  | cons d' definitions ih =>
    have ⟨hd, hn⟩ := List.nodup_cons.mp hn
    rcases List.mem_cons.mp h with rfl | h
    case inl => simp [find?]
    case inr =>
      have hne : d'.name ≠ d.name := by
        intro he
        exact hd (List.mem_map.mpr ⟨d, h, he.symm⟩)
      simpa [find?, hne] using ih hn h

-- With names that are all different, a registry is given by its names and what is found under them.
theorem definitions_eq (hn : r.names.Nodup) : r.definitions = r.names.filterMap r.find? := by
  rw [names, List.filterMap_map]
  have hf : ∀ d ∈ r.definitions, (r.find? ∘ (·.name)) d = some d := fun d h => find?_of_mem hn h
  rw [List.filterMap_congr hf, List.filterMap_some]

theorem ext_find? (hn : r₁.names.Nodup) (he : r₁.names = r₂.names)
    (hf : ∀ name, r₁.find? name = r₂.find? name) : r₁ = r₂ := by
  have h : r₁.definitions = r₂.definitions := by
    rw [definitions_eq hn, definitions_eq (he ▸ hn), he, funext hf]
  obtain ⟨_⟩ := r₁
  obtain ⟨_⟩ := r₂
  exact congrArg _ h

-- Listing names in the order of their first mention leaves nothing out and repeats nothing.
theorem eraseDups_append_singleton {names : List String} {name : String} :
    (names ++ [name]).eraseDups =
      if name ∈ names then names.eraseDups else names.eraseDups ++ [name] := by
  rw [List.eraseDups_append]
  by_cases h : name ∈ names <;> simp [List.removeAll, List.eraseDups_cons, h]

theorem nodup_eraseDups (names : List String) : names.eraseDups.Nodup := by
  induction names using List.reverseRecOn with
  | nil => exact List.nodup_nil
  | append_singleton names name ih =>
    rw [eraseDups_append_singleton]
    split
    case isTrue  => exact ih
    case isFalse h =>
      have hn : ∀ a ∈ names, a ≠ name := fun a ha => ne_of_mem_of_not_mem ha h
      simpa [List.nodup_append, ih] using hn

-- What is found under a name in a registry that gives each of its names one definition.
theorem find?_mk_map {names : List String} {f : String → Definition} {name : String}
    (h : ∀ name, (f name).name = name) :
    find? { definitions := names.map f } name = if name ∈ names then some (f name) else none := by
  induction names with
  | nil => rfl
  | cons name' names ih =>
    simp only [find?, List.map_cons, List.find?_cons, h] at ih ⊢
    by_cases hn : name' = name
    case pos => simp [hn]
    case neg => simpa [hn, Ne.symm hn] using ih

theorem names_declare_eraseDups {mentioned : List String} {name : String}
    (h : r.names = mentioned.eraseDups) :
    (r.declare name).names = (mentioned ++ [name]).eraseDups := by
  rw [names_declare, h, eraseDups_append_singleton]
  simp only [List.mem_eraseDups]

end Registry
end BuildConfig
