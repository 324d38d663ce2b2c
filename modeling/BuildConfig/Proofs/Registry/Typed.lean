import BuildConfig.Proofs.Registry.Declaration
import BuildConfig.Registry.Resolution

namespace BuildConfig

namespace Definition

-- What is assigned to a key has the type that is declared for it.
def Typed (d : Definition) : Prop :=
  ∀ v ∈ d.assigned, v.type = d.type

variable {d : Definition}

namespace Typed

theorem of_unassigned (h : d.assigned = none) : d.Typed := by
  simp [Typed, h]

theorem value_type (h : d.Typed) : d.value.type = d.type := by
  rw [value]
  cases ha : d.assigned with
  | none   => exact Value.type_empty d.type
  | some v => exact h v ha

theorem retype {type : ValueType} (h : d.Typed) : (d.retype type).Typed := by
  rw [Definition.retype]
  split
  case isTrue  => exact h
  case isFalse => exact of_unassigned rfl

-- Only a text that fits the type is ever assigned.
theorem assign {d' : Definition} {text : String} (h : d.assign text = .ok d') : d'.Typed := by
  obtain ⟨v, hv, rfl⟩ := assign_eq_ok_iff.mp h
  intro v' hv'
  cases hv'
  exact Value.type_of_read? hv

theorem settled (h : d.Typed) : d.settled.Typed := by
  intro v hv
  simp only [Definition.settled] at hv ⊢
  cases hd : d.defaultText with
  | none =>
    rw [hd] at hv
    exact h v hv
  | some text =>
    rw [hd] at hv
    exact Value.type_of_read? hv

theorem give {text : String} {f : Field} (h : d.Typed) : (d.give text f).Typed := by
  cases f with
  | type => exact h.retype
  | _    => exact h

end Typed
end Definition

namespace Registry

def Typed (r : Registry) : Prop :=
  ∀ d ∈ r.definitions, d.Typed

namespace Typed
variable {r : Registry} {name source : String} {document : Document} {suppressUndefined : Bool}

theorem empty : Typed {} :=
  fun _ h => nomatch h

theorem of_find? {d : Definition} (h : r.Typed) (hd : r.find? name = some d) : d.Typed :=
  h d (List.mem_of_find?_eq_some hd)

theorem declare (h : r.Typed) : (r.declare name).Typed := by
  rw [Registry.declare]
  split
  case isTrue => exact h
  case isFalse =>
    intro d hd
    rcases List.mem_append.mp hd with hd | hd
    case inl => exact h d hd
    case inr =>
      rw [List.mem_singleton.mp hd]
      exact .of_unassigned rfl

theorem update {f : Definition → Definition} (h : r.Typed) (hf : ∀ d, d.Typed → (f d).Typed) :
    (r.update name f).Typed := by
  intro d hd
  obtain ⟨d, hm, rfl⟩ := List.mem_map.mp hd
  split
  case isTrue  => exact hf d (h d hm)
  case isFalse => exact h d hm

theorem take {s : Declaring} {e : Entry} (h : s.registry.Typed) : (s.take e).registry.Typed := by
  rw [Declaring.take]
  split
  case isTrue => exact h
  case isFalse =>
    cases Field.ofKeyword? e.key with
    | none   => exact h.declare
    | some f => exact h.declare.update fun _ hd => hd.give

theorem settle (h : r.Typed) : (r.settle name).Typed := by
  rw [Registry.settle]
  cases hd : r.find? name with
  | none   => exact h
  | some d => exact h.update fun _ _ => (h.of_find? hd).settled

theorem declareDocument (h : r.Typed) : (r.declareDocument source document).value.Typed := by
  rw [value_declareDocument]
  have ht : (document.foldl Declaring.take { registry := r }).registry.Typed :=
    List.foldlRecOn (motive := fun s : Declaring => s.registry.Typed) document _ h
      fun _ h _ _ => h.take
  exact List.foldlRecOn _ _ ht fun _ h _ _ => h.settle

theorem resolveEntry {s : Resolving} {e : Entry} (h : s.registry.Typed) :
    (resolveEntry source suppressUndefined s e).value.registry.Typed := by
  rw [Registry.resolveEntry]
  cases s.registry.find? e.key with
  | none => exact h
  | some d =>
    dsimp only
    cases ha : d.assign e.value with
    | error m => exact h
    | ok d'   => exact h.update fun _ _ => .assign ha

theorem resolveDocument (h : r.Typed) :
    (r.resolveDocument source suppressUndefined document).value.1.Typed := by
  simp only [Registry.resolveDocument, Reported.value_bind, Reported.value_foldlM,
    Reported.value_pure]
  exact List.foldlRecOn (motive := fun s : Resolving => s.registry.Typed) document _ h
    fun _ h _ _ => h.resolveEntry

end Typed
end Registry
end BuildConfig
