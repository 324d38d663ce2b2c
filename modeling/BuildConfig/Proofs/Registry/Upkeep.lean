import BuildConfig.Proofs.Registry.Store

namespace BuildConfig
namespace Store

variable {s : Store} {r : Registry} {name : String}

-- In the middle of a document both have the same defaults left to read.
structure Declaring.Simulates (s : Declaring) (t : Registry.Declaring) : Prop where
  store     : s.store.Simulates t.registry
  unsettled : s.unsettled = t.unsettled

section
variable {s : Declaring} {t : Registry.Declaring} {source : String} {e : Entry}

theorem Declaring.Simulates.mention {heading : String} (h : s.Simulates t) :
    (s.mention heading).Simulates (t.mention heading) :=
  ⟨h.store.declare, h.unsettled⟩

theorem Declaring.Simulates.give {heading text : String} {f : Field} (h : s.Simulates t) :
    (s.give heading text f).Simulates (t.give heading text f) where
  store     := h.store.update fun _ _ hd hn => ⟨hd.give, Definition.name_give.trans hn⟩
  unsettled := by rw [Declaring.give, Registry.Declaring.give, h.unsettled]

theorem simulates_declareEntry (h : s.Simulates t) :
    Reported.Matches Declaring.Simulates (declareEntry source s e)
      (Registry.declareEntry source t e) := by
  rw [declareEntry, Registry.declareEntry]
  split
  case isTrue => exact .before (.pure h)
  case isFalse =>
    cases Field.ofKeyword? e.key with
    | none   => exact .before (.pure h.mention)
    | some f => exact .before (.pure h.mention.give)

end

structure Resolving.Simulates (s : Resolving) (t : Registry.Resolving) : Prop where
  store  : s.store.Simulates t.registry
  counts : s.counts = t.counts

section
variable {s : Resolving} {t : Registry.Resolving} {source : String} {suppressUndefined : Bool} {e : Entry}

theorem simulates_resolveEntry (h : s.Simulates t) :
    Reported.Matches Resolving.Simulates (resolveEntry source suppressUndefined s e)
      (Registry.resolveEntry source suppressUndefined t e) := by
  rw [resolveEntry, Registry.resolveEntry]
  rcases @Simulates.find? _ _ e.key h.store with ⟨hs, ht⟩ | ⟨d, d', hs, ht, hd, hn⟩
  case inl =>
    rw [hs, ht]
    exact .before (.pure ⟨h.store, by rw [Resolving.missed, Registry.Resolving.missed, h.counts]⟩)
  case inr =>
    rw [hs, ht]
    dsimp only
    rcases @Record.Simulates.assign d d' e.value hd with ⟨a, a', ha, ha', hv, hn'⟩ | ⟨misfit, ha, ha'⟩
    case inl =>
      rw [ha, ha']
      refine .pure ⟨?_, by rw [Resolving.stored, Registry.Resolving.stored, h.counts]⟩
      have hn : a'.name = e.key := hn'.trans hn
      rw [Resolving.stored, Registry.Resolving.stored, hn]
      exact h.store.update fun _ _ _ _ => ⟨hv, hn⟩
    case inr =>
      rw [ha, ha']
      exact .before (.pure ⟨h.store, by rw [Resolving.refused, Registry.Resolving.refused, h.counts]⟩)

end

namespace Simulates
variable {source path : String} {document : Document} {suppressUndefined : Bool}
variable {content : Except FileError String} (h : s.Simulates r)
include h

theorem settleDefault :
    Reported.Matches Simulates (settleDefault source s name) (Registry.settleDefault source r name) := by
  rw [Store.settleDefault, Registry.settleDefault]
  rcases @Simulates.find? _ _ name h with ⟨hs, hr⟩ | ⟨d, e, hs, hr, hd, hn⟩
  case inl =>
    rw [hs, hr]
    exact .pure h
  case inr =>
    rw [hs, hr]
    refine hd.settle.bind fun d' e' hs' => .pure (h.update fun _ _ _ _ => ?_)
    exact ⟨hs'.left, hs'.right.trans hn⟩

theorem declareDocument :
    Reported.Matches Simulates (declareDocument source s document)
      (Registry.declareDocument source r document) := by
  have hd : Reported.Matches Declaring.Simulates (document.foldlM (declareEntry source) { store := s })
      (document.foldlM (Registry.declareEntry source) { registry := r }) := by
    refine .foldlM (fun _ _ _ hs => ?_) ⟨h, rfl⟩
    exact simulates_declareEntry hs
  refine hd.bind fun s' t' hs => ?_
  rw [hs.unsettled]
  exact .foldlM (fun _ _ _ h => h.settleDefault) hs.store

theorem declareFile :
    Reported.Matches (fun a b => a.1.Simulates b.1 ∧ a.2 = b.2) (s.declareFile path content)
      (r.declareFile path content) := by
  cases content with
  | error cause => exact .before (.pure ⟨h, rfl⟩)
  | ok text =>
    simp only [Store.declareFile, Registry.declareFile]
    cases Document.read text with
    | error e     => exact .before (.pure ⟨h, rfl⟩)
    | ok document => exact h.declareDocument.bind fun _ _ hs => .pure ⟨hs, rfl⟩

theorem resolveDocument :
    Reported.Matches (fun a b => a.1.Simulates b.1 ∧ a.2 = b.2)
      (resolveDocument source suppressUndefined s document)
      (Registry.resolveDocument source suppressUndefined r document) := by
  have hr : Reported.Matches Resolving.Simulates
      (document.foldlM (resolveEntry source suppressUndefined) { store := s })
      (document.foldlM (Registry.resolveEntry source suppressUndefined) { registry := r }) := by
    refine .foldlM (fun _ _ _ hs => ?_) ⟨h, rfl⟩
    exact simulates_resolveEntry hs
  exact hr.bind fun s' t' hs => .pure ⟨hs.store, hs.counts⟩

-- A configuration file that cannot be used is refused by both for the same reason.
theorem resolveFile :
    Reported.Matches
      (fun a b => (∃ e, a = .error e ∧ b = .error e) ∨
        ∃ s' r' counts, a = .ok (s', counts) ∧ b = .ok (r', counts) ∧ s'.Simulates r')
      (s.resolveFile path suppressUndefined content) (r.resolveFile path suppressUndefined content) := by
  cases content with
  | error cause => exact .pure (.inl ⟨_, rfl, rfl⟩)
  | ok text =>
    simp only [Store.resolveFile, Registry.resolveFile]
    cases Document.read text with
    | error e => exact .pure (.inl ⟨_, rfl, rfl⟩)
    | ok document =>
      refine h.resolveDocument.bind fun a b hs => .pure (.inr ⟨a.1, b.1, a.2, rfl, ?_, hs.left⟩)
      rw [hs.right]

end Simulates

open Registry (Operation)

-- The store after an operation, which is the same as before where the operation fails.
def apply (s : Store) : Operation → Store
  | .declare name                    => s.declare name
  | .edit name e                     => s.update name (·.edit e)
  | .declareDocument source document => (declareDocument source s document).value
  | .resolveDocument source suppressUndefined document =>
    (resolveDocument source suppressUndefined s document).value.1
  | .declareFile path content        => (s.declareFile path content).value.1
  | .resolveFile path suppressUndefined content =>
    match (s.resolveFile path suppressUndefined content).value with
    | .error _          => s
    | .ok (resolved, _) => resolved

-- The store that a history of operations leads to from nothing.
def after (history : List Operation) : Store :=
  history.foldl apply {}

theorem Simulates.apply {o : Operation} (h : s.Simulates r) : (s.apply o).Simulates (r.apply o) := by
  cases o with
  | declare name => exact h.declare
  | edit name e =>
    exact h.update fun _ _ hd hn => ⟨hd.edit, Definition.name_edit.trans hn⟩
  | declareDocument source document => exact h.declareDocument.value
  | resolveDocument source suppressUndefined document => exact h.resolveDocument.value.left
  | declareFile path content => exact h.declareFile.value.left
  | resolveFile path suppressUndefined content =>
    have hf := (@resolveFile s r path suppressUndefined content h).value
    rw [Store.apply, Registry.apply]
    rcases hf with ⟨e, hs, hr⟩ | ⟨s', r', counts, hs, hr, h'⟩
    case inl => rwa [hs, hr]
    case inr => rwa [hs, hr]

theorem simulates_empty : Simulates {} {} where
  sound := {
    place _ _ := by simp [names]
    records _ := nofun }
  compact := rfl

theorem simulates_after (history : List Operation) :
    (after history).Simulates (Registry.after history) := by
  induction history using List.reverseRecOn with
  | nil => exact simulates_empty
  | append_singleton history o ih =>
    rw [after, List.foldl_append, Registry.after_append_singleton]
    exact ih.apply

-- Whatever was done to a store, its index leads to each name by its one place and nowhere else, a name is found
-- exactly if it is there, and what a record holds agrees with its type and with the mark beside it. It holds the
-- names that were mentioned in the order of their first mention, and no further operation takes a name away or
-- moves it. All this time it stands for the registry that went through the same operations, and what is looked up
-- or read there is what is looked up or read here.
theorem sound_after (history : List Operation) :
    let s := after history
    s.names.Nodup ∧
      (∀ name d, s.find? name = some d ↔ d ∈ s.records ∧ d.name = name) ∧
      (∀ name, s.find? name = none ↔ name ∉ s.names) ∧
      (∀ (name : String) (i : Nat), s.index[name]? = some i ↔ s.names[i]? = some name) ∧
      (∀ d ∈ s.records, d.value.type = d.type) ∧
      (∀ d ∈ s.records, d.hasValue = false → d.value = .empty d.type) ∧
      s.names = (history.flatMap (·.mentions)).eraseDups ∧
      (∀ o, s.names <+: (s.apply o).names) ∧
      s.compact = Registry.after history ∧
      (∀ name, (s.find? name).map (·.compact) = (Registry.after history).find? name) ∧
      ∀ d ∈ s.records, d.value = d.compact.value ∧ d.hasValue = d.compact.hasValue := by
  intro s
  have h : s.Simulates (Registry.after history) := simulates_after history
  refine ⟨h.sound.nodup, fun _ _ => h.sound.find?_eq_some_iff, fun _ => h.sound.find?_eq_none_iff,
    h.sound.place, fun d hd => (h.sound.records d hd).type, fun d hd => (h.sound.records d hd).empty,
    h.names.trans Registry.names_after, fun o => ?pre, h.compact, fun _ => h.map_find?, fun d hd => ?read⟩
  case pre =>
    rw [h.names, h.apply.names]
    exact Registry.names_after_isPrefix_apply
  case read =>
    have hs : d.Simulates d.compact := ⟨h.sound.records d hd, rfl⟩
    exact ⟨hs.value, hs.hasValue⟩

end Store
end BuildConfig
