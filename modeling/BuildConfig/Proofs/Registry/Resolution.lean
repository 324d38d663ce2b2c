import BuildConfig.Proofs.Registry.Sources

namespace BuildConfig
namespace Definition

variable {d : Definition} {name : String} {es : List Entry} {texts : List String}

-- Assigns a text if it fits the type.
def offer (d : Definition) (text : String) : Definition :=
  match Value.read? d.type text with
  | none   => d
  | some v => { d with assigned := some v }

theorem lastFitting?_cons {type : ValueType} {text : String} {texts : List String} :
    lastFitting? type (text :: texts) = (lastFitting? type texts).or (Value.read? type text) := by
  simp only [lastFitting?, List.filterMap_cons]
  cases Value.read? type text with
  | none   => simp
  | some v => rw [List.getLast?_cons]; cases (texts.filterMap _).getLast? <;> rfl

-- Of many texts the last one that fits is kept, and a later one that does not fit changes nothing.
theorem foldl_offer :
    texts.foldl offer d = { d with assigned := (lastFitting? d.type texts).or d.assigned } := by
  induction texts generalizing d with
  | nil => rfl
  | cons text texts ih =>
    rw [List.foldl_cons, ih, offer, lastFitting?_cons]
    cases hv : Value.read? d.type text with
    | none   => simp
    | some v => cases lastFitting? d.type texts <;> rfl

theorem foldl_offer_meaning : texts.foldl offer (meaning name es []) = meaning name es texts :=
  foldl_offer

end Definition

namespace Registry

variable {r : Registry} {s : Resolving} {e : Entry} {document : Document} {name source : String}
variable {suppressUndefined : Bool}

-- What an entry does to a key that it names: it offers its text to what is there.
theorem find?_resolveEntry_self :
    (resolveEntry source suppressUndefined s e).value.registry.find? e.key =
      (s.registry.find? e.key).map (·.offer e.value) := by
  rw [resolveEntry]
  cases hd : s.registry.find? e.key with
  | none => exact hd
  | some d =>
    have hn := name_of_find? hd
    simp only [Definition.assign, Value.coerce, Definition.offer, Option.map_some]
    cases Value.read? d.type e.value with
    | none   => exact hd
    | some v =>
      let assigned : Definition := { d with assigned := some v }
      have hf : ∀ d' : Definition, d'.name = d.name → assigned.name = d.name := fun _ _ => rfl
      rw [← hn] at hd ⊢
      exact (find?_update_self hf).trans (by rw [hd]; rfl)

theorem find?_resolveEntry_of_ne (h : name ≠ e.key) :
    (resolveEntry source suppressUndefined s e).value.registry.find? name =
      s.registry.find? name := by
  rw [resolveEntry]
  cases hd : s.registry.find? e.key with
  | none => rfl
  | some d =>
    rw [← name_of_find? hd] at h
    simp only [Definition.assign, Value.coerce]
    cases Value.read? d.type e.value with
    | none   => rfl
    | some v => exact find?_update_of_ne (fun _ _ => rfl) h

theorem names_resolveEntry :
    (resolveEntry source suppressUndefined s e).value.registry.names = s.registry.names := by
  rw [resolveEntry]
  cases s.registry.find? e.key with
  | none => rfl
  | some d =>
    simp only [Definition.assign, Value.coerce]
    cases Value.read? d.type e.value with
    | none   => rfl
    | some v => exact names_update fun _ _ => rfl

theorem find?_foldl_resolveEntry :
    (document.foldl (fun s e => (resolveEntry source suppressUndefined s e).value)
      s).registry.find? name =
      (s.registry.find? name).map ((document.textsFor name).foldl Definition.offer) := by
  induction document generalizing s with
  | nil => simp [Document.textsFor]
  | cons e document ih =>
    rw [List.foldl_cons, ih, Document.textsFor_cons]
    by_cases h : e.key = name
    case pos =>
      rw [if_pos h, ← h, find?_resolveEntry_self, Option.map_map]
      rfl
    case neg => rw [if_neg h, find?_resolveEntry_of_ne (Ne.symm h)]

theorem names_foldl_resolveEntry :
    (document.foldl (fun s e => (resolveEntry source suppressUndefined s e).value)
      s).registry.names = s.registry.names := by
  induction document generalizing s with
  | nil => rfl
  | cons e document ih => rw [List.foldl_cons, ih, names_resolveEntry]

-- The registry after a whole document: each key was offered the texts of its entries in turn.
theorem find?_resolveDocument :
    (r.resolveDocument source suppressUndefined document).value.1.find? name =
      (r.find? name).map ((document.textsFor name).foldl Definition.offer) := by
  simp only [resolveDocument, Reported.value_bind, Reported.value_foldlM, Reported.value_pure]
  exact find?_foldl_resolveEntry

theorem names_resolveDocument :
    (r.resolveDocument source suppressUndefined document).value.1.names = r.names := by
  simp only [resolveDocument, Reported.value_bind, Reported.value_foldlM, Reported.value_pure]
  exact names_foldl_resolveEntry

theorem resolveDocument_meaning {declared : Document} :
    ((meaning declared []).resolveDocument source suppressUndefined document).value.1 =
      meaning declared document := by
  let resolved := ((meaning declared []).resolveDocument source suppressUndefined document).value
  have hn : resolved.1.names = declared.sections := names_resolveDocument.trans names_meaning
  refine ext_find? (hn ▸ nodup_eraseDups _) ?names fun name => ?find
  case names => rw [hn, names_meaning]
  case find =>
    rw [find?_resolveDocument, find?_meaning, find?_meaning]
    split
    case isTrue  => exact congrArg some Definition.foldl_offer_meaning
    case isFalse => rfl

end Registry
end BuildConfig
