import BuildConfig.Proofs.Registry.History
import BuildConfig.Registry.Store

namespace BuildConfig

-- Two results with the same warnings, and with values of which one stands for the other.
structure Reported.Matches {α β : Type} (R : α → β → Prop) (r₁ : Reported α) (r₂ : Reported β) : Prop where
  value    : R r₁.value r₂.value
  warnings : r₁.warnings = r₂.warnings

namespace Reported.Matches
variable {α β α' β' γ : Type} {R : α → β → Prop} {R' : α' → β' → Prop}

theorem pure {a : α} {b : β} (h : R a b) : Matches R (pure a) (pure b) :=
  ⟨h, rfl⟩

theorem bind {r₁ : Reported α} {r₂ : Reported β} {f : α → Reported α'} {g : β → Reported β'}
    (h : Matches R r₁ r₂) (hf : ∀ a b, R a b → Matches R' (f a) (g b)) :
    Matches R' (r₁ >>= f) (r₂ >>= g) where
  value    := (hf _ _ h.value).value
  warnings := by rw [warnings_bind, warnings_bind, h.warnings, (hf _ _ h.value).warnings]

-- The same warnings in front make no difference.
theorem before {r : Reported γ} {r₁ : Reported α} {r₂ : Reported β} (h : Matches R r₁ r₂) :
    Matches R (r >>= fun _ => r₁) (r >>= fun _ => r₂) where
  value    := h.value
  warnings := by rw [warnings_bind, warnings_bind, h.warnings]

theorem foldlM {f : α → γ → Reported α} {g : β → γ → Reported β}
    (hf : ∀ a b c, R a b → Matches R (f a c) (g b c)) {cs : List γ} {a : α} {b : β} (h : R a b) :
    Matches R (cs.foldlM f a) (cs.foldlM g b) := by
  induction cs generalizing a b with
  | nil => exact pure h
  | cons c cs ih =>
    rw [List.foldlM_cons, List.foldlM_cons]
    exact (hf a b c h).bind fun _ _ h => ih h

end Reported.Matches

namespace Record

-- What a record holds has its type, and what was not assigned is the empty value.
structure Sound (d : Record) : Prop where
  type  : d.value.type = d.type
  empty : d.hasValue = false → d.value = .empty d.type

-- A sound record stands for the definition that it is without its idle value.
structure Simulates (d : Record) (e : Definition) : Prop where
  sound   : d.Sound
  compact : d.compact = e

def edit (d : Record) : Edit → Record
  | .description text  => { d with description := text }
  | .define text       => { d with define := text }
  | .required required => { d with required := required }
  | .defaultText text? => { d with defaultText := text? }
  | .type type         => d.retype type
  | .value text        => (d.assign text).toOption.getD d
  | .clear             => d.clear

variable {d d' : Record} {e : Definition} {type : ValueType} {text source : String}

theorem sound_of_empty (h : d.value = .empty d.type) : d.Sound where
  type    := h ▸ Value.type_empty d.type
  empty _ := h

namespace Simulates
variable (h : d.Simulates e)
include h

theorem name : d.name = e.name := by
  obtain ⟨_, rfl⟩ := h
  rfl

theorem value : d.value = e.value := by
  obtain ⟨h, rfl⟩ := h
  rw [Definition.value, Record.compact]
  cases hv : d.hasValue with
  | false => exact h.empty hv
  | true  => rfl

theorem hasValue : d.hasValue = e.hasValue := by
  obtain ⟨_, rfl⟩ := h
  rw [Definition.hasValue, Record.compact]
  cases d.hasValue <;> rfl

theorem retype : (d.retype type).Simulates (e.retype type) := by
  obtain ⟨h, rfl⟩ := h
  have ht : d.compact.type = d.type := rfl
  rw [Record.retype, Definition.retype, ht]
  split
  case isTrue  => exact ⟨h, rfl⟩
  case isFalse => exact ⟨sound_of_empty rfl, rfl⟩

theorem clear : d.clear.Simulates e.clear := by
  obtain ⟨_, rfl⟩ := h
  exact ⟨sound_of_empty rfl, rfl⟩

-- A text fits both or none of them.
theorem assign :
    (∃ d' e', d.assign text = .ok d' ∧ e.assign text = .ok e' ∧ d'.Simulates e' ∧ e'.name = e.name) ∨
      ∃ misfit, d.assign text = .error misfit ∧ e.assign text = .error misfit := by
  obtain ⟨_, rfl⟩ := h
  have ht : d.compact.type = d.type := rfl
  rw [Record.assign, Definition.assign, ht, Value.coerce]
  cases hv : Value.read? d.type text with
  | none   => exact .inr ⟨_, rfl, rfl⟩
  | some v =>
    have hs : Sound { d with value := v, hasValue := true } := {
      type    := Value.type_of_read? hv
      empty h := Bool.noConfusion h }
    exact .inl ⟨_, _, rfl, rfl, ⟨hs, rfl⟩, rfl⟩

theorem give {f : Field} : (d.give text f).Simulates (e.give text f) := by
  cases f with
  | type => exact h.retype
  | _ =>
    obtain ⟨h, rfl⟩ := h
    exact ⟨⟨h.type, h.empty⟩, rfl⟩

theorem settle :
    Reported.Matches (fun d' e' => d'.Simulates e' ∧ e'.name = e.name) (d.settle source)
      (e.settle source) := by
  have ht : e.defaultText = d.defaultText := by
    obtain ⟨_, rfl⟩ := h
    rfl
  rw [Record.settle, Definition.settle, ht]
  cases d.defaultText with
  | none => exact .pure ⟨h, rfl⟩
  | some text =>
    rcases @assign d e text h with ⟨d', e', hd, he, hs⟩ | ⟨misfit, hd, he⟩
    case inl =>
      dsimp only
      rw [hd, he]
      exact .pure hs
    case inr =>
      dsimp only
      rw [hd, he]
      exact ⟨⟨h.clear, rfl⟩, by rw [h.name]⟩

theorem edit {edit : Edit} : (d.edit edit).Simulates (e.edit edit) := by
  cases edit with
  | type type => exact h.retype
  | clear     => exact h.clear
  | value text =>
    rw [Record.edit, Definition.edit]
    rcases @assign d e text h with ⟨d', e', hd, he, hs, _⟩ | ⟨misfit, hd, he⟩
    case inl => rwa [hd, he]
    case inr => rwa [hd, he]
  | _ =>
    obtain ⟨h, rfl⟩ := h
    exact ⟨⟨h.type, h.empty⟩, rfl⟩

end Simulates
end Record

end BuildConfig
