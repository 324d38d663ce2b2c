import BuildConfig.Proofs.Registry.Record

namespace BuildConfig

namespace Store

-- The index leads to the place of each name that is there, and nowhere for other names. It never leads past
-- the end of the row.
structure Sound (s : Store) : Prop where
  place   : ∀ (name : String) (i : Nat), s.index[name]? = some i ↔ s.names[i]? = some name
  records : ∀ d ∈ s.records, d.Sound

-- A sound store stands for the registry that it is without its index.
structure Simulates (s : Store) (r : Registry) : Prop where
  sound   : s.Sound
  compact : s.compact = r

variable {s : Store} {r : Registry} {name : String} {d : Record} {i : Nat}

theorem names_getElem?_eq_some_iff : s.names[i]? = some name ↔ ∃ d, s.records[i]? = some d ∧ d.name = name := by
  rw [names, List.getElem?_map, Array.getElem?_toList, Option.map_eq_some_iff]

theorem names_compact : s.compact.names = s.names := by
  simp only [Registry.names, compact, names, List.map_map]
  rfl

-- The last place of a row is that of a name that was not there before.
theorem getElem?_append_singleton_eq_some_iff {names : List String} {other : String} (h : name ∉ names) :
    (names ++ [name])[i]? = some other ↔
      if name = other then i = names.length else names[i]? = some other := by
  rw [List.getElem?_append]
  by_cases hi : i < names.length
  case pos =>
    rw [if_pos hi]
    split
    case isTrue hn =>
      subst hn
      exact ⟨fun hn => absurd (List.mem_of_getElem? hn) h, fun he => by omega⟩
    case isFalse => rfl
  case neg =>
    have hn : names[i]? = none := List.getElem?_eq_none (by omega)
    rw [if_neg hi, List.getElem?_singleton, hn]
    by_cases hi : i = names.length
    case pos => simp [hi]
    case neg =>
      rw [if_neg (by omega)]
      simp [hi]

namespace Sound
variable (h : s.Sound)
include h

theorem nodup : s.names.Nodup := by
  rw [List.nodup_iff_injective_getElem]
  intro i j hn
  have hi := (h.place _ _).mpr (List.getElem?_eq_getElem i.isLt)
  have hj := (h.place _ _).mpr (List.getElem?_eq_getElem j.isLt)
  have hn : s.names[i.val] = s.names[j.val] := hn
  rw [hn, hj] at hi
  exact Fin.ext (Option.some.inj hi).symm

theorem index_eq_none_iff : s.index[name]? = none ↔ name ∉ s.names := by
  constructor
  case mp =>
    intro hi hn
    obtain ⟨i, hn⟩ := List.mem_iff_getElem?.mp hn
    rw [(h.place name i).mpr hn] at hi
    contradiction
  case mpr =>
    intro hn
    refine Option.eq_none_iff_forall_ne_some.mpr fun i hi => hn ?_
    exact List.mem_of_getElem? ((h.place name i).mp hi)

theorem index_eq_some_iff (hd : s.records[i]? = some d) : s.index[name]? = some i ↔ d.name = name := by
  rw [h.place, names_getElem?_eq_some_iff, hd]
  simp

theorem find?_eq_some_iff : s.find? name = some d ↔ d ∈ s.records ∧ d.name = name := by
  rw [find?, Option.bind_eq_some_iff]
  constructor
  case mp =>
    rintro ⟨i, hi, hd⟩
    obtain ⟨d', hd', hn⟩ := names_getElem?_eq_some_iff.mp ((h.place name i).mp hi)
    cases hd'.symm.trans hd
    exact ⟨Array.mem_of_getElem? hd, hn⟩
  case mpr =>
    rintro ⟨hd, hn⟩
    obtain ⟨i, hd⟩ := Array.mem_iff_getElem?.mp hd
    exact ⟨i, (h.place name i).mpr (names_getElem?_eq_some_iff.mpr ⟨d, hd, hn⟩), hd⟩

theorem find?_eq_none_iff : s.find? name = none ↔ name ∉ s.names := by
  rw [← h.index_eq_none_iff, find?]
  cases hi : s.index[name]? with
  | none => simp
  | some i =>
    obtain ⟨d, hd, _⟩ := names_getElem?_eq_some_iff.mp ((h.place name i).mp hi)
    simp [hd]

theorem declare_of_mem (hn : name ∈ s.names) : s.declare name = s := by
  obtain ⟨i, hi⟩ := List.mem_iff_getElem?.mp hn
  rw [declare, (h.place name i).mpr hi]

theorem toList_declare (hn : name ∉ s.names) :
    (s.declare name).records.toList = s.records.toList ++ [{ name := name }] := by
  rw [declare, h.index_eq_none_iff.mpr hn, Array.toList_push]

theorem names_declare (hn : name ∉ s.names) : (s.declare name).names = s.names ++ [name] := by
  rw [names, h.toList_declare hn, List.map_append]
  rfl

protected theorem declare : (s.declare name).Sound := by
  by_cases hn : name ∈ s.names
  case pos => rwa [h.declare_of_mem hn]
  case neg =>
    refine ⟨fun n i => ?place, fun d hd => ?record⟩
    case place =>
      have hs : s.names.length = s.records.size := by simp [Store.names]
      rw [h.names_declare hn, getElem?_append_singleton_eq_some_iff hn, hs, ← h.place, Store.declare,
        h.index_eq_none_iff.mpr hn, Std.HashMap.getElem?_insert]
      by_cases he : name = n
      case pos =>
        rw [if_pos he, if_pos (beq_iff_eq.mpr he), Option.some_inj]
        exact eq_comm
      case neg => rw [if_neg he, if_neg (mt beq_iff_eq.mp he)]
    case record =>
      rw [← Array.mem_toList_iff, h.toList_declare hn, List.mem_append, List.mem_singleton] at hd
      rcases hd with hd | rfl
      case inl => exact h.records d (Array.mem_toList_iff.mp hd)
      case inr => exact Record.sound_of_empty rfl

theorem compact_declare : (s.declare name).compact = s.compact.declare name := by
  rw [Registry.declare, names_compact]
  by_cases hn : name ∈ s.names
  case pos => rw [h.declare_of_mem hn, if_pos hn]
  case neg =>
    rw [if_neg hn, compact, h.toList_declare hn, List.map_append]
    rfl

-- What is changed in the one place is changed wherever the name is, for it is in no other place.
theorem toList_update {f : Record → Record} :
    (s.update name f).records.toList =
      s.records.toList.map fun d => if d.name = name then f d else d := by
  refine List.ext_getElem? fun i => ?_
  rw [List.getElem?_map, Array.getElem?_toList, Array.getElem?_toList, Store.update]
  cases hd : s.records[i]? with
  | none => split <;> simp [Array.getElem?_modify, hd]
  | some d =>
    have hn := @h.index_eq_some_iff _ name _ _ hd
    cases hi : s.index[name]? with
    | none =>
      rw [hi] at hn
      rw [Option.map_some, if_neg (mt hn.mpr nofun)]
      exact hd
    | some j =>
      rw [hi, Option.some_inj] at hn
      simp only [Array.getElem?_modify, hd, hn, Option.map_some]
      split <;> rfl

theorem names_update {f : Record → Record} (hf : ∀ d ∈ s.records, d.name = name → (f d).name = name) :
    (s.update name f).names = s.names := by
  rw [names, names, h.toList_update, List.map_map]
  refine List.map_congr_left fun d hd => ?_
  rw [Function.comp]
  split
  case isTrue hn => exact (hf d (Array.mem_toList_iff.mp hd) hn).trans hn.symm
  case isFalse   => rfl

end Sound

namespace Simulates
variable (h : s.Simulates r)
include h

theorem names : s.names = r.names := by
  obtain ⟨_, rfl⟩ := h
  exact names_compact.symm

theorem nodup : r.names.Nodup :=
  h.names ▸ h.sound.nodup

-- A name is found in both or in none of them.
theorem find? :
    (s.find? name = none ∧ r.find? name = none) ∨
      ∃ d e, s.find? name = some d ∧ r.find? name = some e ∧ d.Simulates e ∧ e.name = name := by
  cases hd : s.find? name with
  | none =>
    have hn : name ∉ r.names := h.names ▸ h.sound.find?_eq_none_iff.mp hd
    exact .inl ⟨rfl, Registry.find?_eq_none_iff.mpr hn⟩
  | some d =>
    have ⟨hm, hn⟩ := h.sound.find?_eq_some_iff.mp hd
    refine .inr ⟨d, d.compact, rfl, ?_, ⟨h.sound.records d hm, rfl⟩, hn⟩
    refine (Registry.find?_eq_some_iff h.nodup).mpr ⟨?_, hn⟩
    obtain ⟨_, rfl⟩ := h
    exact List.mem_map_of_mem (Array.mem_toList_iff.mpr hm)

theorem map_find? : (s.find? name).map (·.compact) = r.find? name := by
  rcases @find? s r name h with ⟨hs, hr⟩ | ⟨d, e, hs, hr, hd, _⟩
  case inl => rw [hs, hr, Option.map_none]
  case inr => rw [hs, hr, Option.map_some, hd.compact]

theorem declare : (s.declare name).Simulates (r.declare name) where
  sound   := h.sound.declare
  compact := by rw [h.sound.compact_declare, h.compact]

theorem update {f : Record → Record} {g : Definition → Definition}
    (hf : ∀ d e, d.Simulates e → e.name = name → (f d).Simulates (g e) ∧ (g e).name = name) :
    (s.update name f).Simulates (r.update name g) := by
  obtain ⟨h, rfl⟩ := h
  have hf (d) (hd : d ∈ s.records) (hn : d.name = name) :
      (f d).Simulates (g d.compact) ∧ (f d).name = name := by
    have ⟨hs, hg⟩ := hf d d.compact ⟨h.records d hd, rfl⟩ hn
    exact ⟨hs, hs.name.trans hg⟩
  refine ⟨⟨fun n i => ?place, fun d' hd' => ?record⟩, ?compact⟩
  case place =>
    have hi : (s.update name f).index = s.index := by
      rw [Store.update]
      split <;> rfl
    rw [hi, h.names_update fun d hd hn => (hf d hd hn).right]
    exact h.place n i
  case record =>
    rw [← Array.mem_toList_iff, h.toList_update, List.mem_map] at hd'
    obtain ⟨d, hd, rfl⟩ := hd'
    have hd := Array.mem_toList_iff.mp hd
    split
    case isTrue hn => exact (hf d hd hn).left.sound
    case isFalse   => exact h.records d hd
  case compact =>
    refine congrArg Registry.mk ?_
    rw [h.toList_update, Store.compact, List.map_map, List.map_map]
    refine List.map_congr_left fun d hd => ?_
    have hn : d.compact.name = d.name := rfl
    rw [Function.comp, Function.comp, hn, apply_ite Record.compact]
    split
    case isTrue hn => exact (hf d (Array.mem_toList_iff.mp hd) hn).left.compact
    case isFalse   => rfl

end Simulates

end Store
end BuildConfig
