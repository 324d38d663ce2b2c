import BuildConfig.Proofs.Document.RoundTrip
import BuildConfig.Proofs.Registry.Section
import BuildConfig.Proofs.Value.Rendering

namespace BuildConfig

-- No part of a definition that can get into a generated file goes over more than one line.
structure Definition.OneLine (d : Definition) : Prop where
  define      : '\n' ∉ d.define.toList
  defaultText : ∀ text ∈ d.defaultText, '\n' ∉ text.toList
  assigned    : ∀ v ∈ d.assigned, '\n' ∉ v.render.toList

namespace Document

variable {text : String} {document : Document} {e : Entry}

theorem triple_mem (he : e ∈ document) : ⟨e.heading, e.key, e.value⟩ ∈ triples document :=
  List.mem_map_of_mem he

theorem isKey_of_mem (h : read text = .ok document) (he : e ∈ document) : IsKey e.key.toList :=
  (wellFormed_of_read h _ (triple_mem he)).key

theorem isHeading_of_mem (h : read text = .ok document) (he : e ∈ document) :
    IsHeading e.heading.toList :=
  (wellFormed_of_read h _ (triple_mem he)).heading

-- The sections with a name are those that declare something.
theorem isHeading_of_mem_headings {name : String} (h : read text = .ok document)
    (hm : name ∈ document.named.map (·.heading)) : IsHeading name.toList ∧ name ≠ "" := by
  obtain ⟨e, he, rfl⟩ := List.mem_map.mp hm
  have ⟨he, hn⟩ := List.mem_filter.mp he
  exact ⟨isHeading_of_mem h he, by simpa using hn⟩

theorem newline_not_mem_value (h : read text = .ok document) (he : e ∈ document) :
    '\n' ∉ e.value.toList :=
  (wellFormed_of_read h _ (triple_mem he)).value.oneLine

end Document

namespace Definition.OneLine

variable {d : Definition} {e : Entry} {es : List Entry} {text : String} {texts : List String}

theorem new (name : String) : OneLine { name := name } where
  define          := List.not_mem_nil
  defaultText _ h := nomatch h
  assigned _ h    := nomatch h

theorem take (h : d.OneLine) (he : '\n' ∉ e.value.toList) : (d.take e).OneLine := by
  rw [take_eq]
  constructor
  case define =>
    dsimp only
    split
    case isTrue  => exact he
    case isFalse => exact h.define
  case defaultText =>
    dsimp only
    split
    case isTrue  => simpa using he
    case isFalse => exact h.defaultText
  case assigned =>
    dsimp only
    split
    case isTrue  => simp
    case isFalse => exact h.assigned

theorem foldl_take (h : d.OneLine) (he : ∀ e ∈ es, '\n' ∉ e.value.toList) :
    (es.foldl Definition.take d).OneLine :=
  List.foldlRecOn es _ h fun _ h e hm => h.take (he e hm)

theorem settled (h : d.OneLine) : d.settled.OneLine where
  define      := h.define
  defaultText := h.defaultText
  assigned    := by
    intro v hv
    simp only [Definition.settled] at hv
    cases hd : d.defaultText with
    | none =>
      rw [hd] at hv
      exact h.assigned v hv
    | some text =>
      rw [hd] at hv
      exact Value.newline_not_mem_render_of_read? hv (h.defaultText text hd)

theorem redeclare (h : d.OneLine) (he : ∀ e ∈ es, '\n' ∉ e.value.toList) :
    (d.redeclare es).OneLine := by
  rw [Definition.redeclare]
  split
  case isTrue  => exact (h.foldl_take he).settled
  case isFalse => exact h.foldl_take he

theorem offer (h : d.OneLine) (ht : '\n' ∉ text.toList) : (d.offer text).OneLine := by
  rw [Definition.offer]
  cases hv : Value.read? d.type text with
  | none => exact h
  | some v =>
    have hr : '\n' ∉ v.render.toList := Value.newline_not_mem_render_of_read? hv ht
    exact { h with assigned := by simpa using hr }

theorem foldl_offer (h : d.OneLine) (ht : ∀ text ∈ texts, '\n' ∉ text.toList) :
    (texts.foldl Definition.offer d).OneLine :=
  List.foldlRecOn texts _ h fun _ h text hm => h.offer (ht text hm)

-- A key to which nothing is assigned shows the empty value, which has no lines at all.
theorem value (h : d.OneLine) : '\n' ∉ d.value.render.toList := by
  rw [Definition.value]
  cases ha : d.assigned with
  | none   => cases d.type <;> decide
  | some v => exact h.assigned v ha

end Definition.OneLine

namespace Registry

def OneLine (r : Registry) : Prop :=
  ∀ d ∈ r.definitions, d.OneLine

-- Operations that take in documents as they are read from texts, which all files hold.
inductive Operation.FromText : Operation → Prop
  | declareDocument {source text document} (h : Document.read text = .ok document) :
    FromText (.declareDocument source document)
  | resolveDocument {source suppressUndefined text document} (h : Document.read text = .ok document) :
    FromText (.resolveDocument source suppressUndefined document)
  | declareFile {path content} : FromText (.declareFile path content)
  | resolveFile {path suppressUndefined content} :
    FromText (.resolveFile path suppressUndefined content)

-- What an operation comes to: nothing, or that a document is taken in that was read from a text.
inductive ComesTo (r : Registry) (o : Operation) : Prop
  | nothing (h : r.apply o = r) (hm : o.mentions = [])
  | declares {source text document} (hd : Document.read text = .ok document)
    (h : r.apply o = (r.declareDocument source document).value)
    (hm : o.mentions = document.named.map (·.heading))
  | resolves {source suppressUndefined text document} (hd : Document.read text = .ok document)
    (h : r.apply o = (r.resolveDocument source suppressUndefined document).value.1)
    (hm : o.mentions = [])

variable {r : Registry} {source : String} {document : Document} {suppressUndefined : Bool}
variable {o : Operation} {history : List Operation}

theorem Operation.FromText.comesTo (h : o.FromText) (r : Registry) : r.ComesTo o := by
  cases h with
  | declareDocument hd => exact .declares hd rfl rfl
  | resolveDocument hd => exact .resolves hd rfl rfl
  | @declareFile path content =>
    have ha := @apply_declareFile r path content
    have hm : (Operation.declareFile path content).mentions =
        ((Document.ofContent? content).elim [] Document.named).map (·.heading) := rfl
    cases hc : Document.ofContent? content with
    | none => exact .nothing (by rw [ha, hc]; rfl) (by rw [hm, hc]; rfl)
    | some document =>
      obtain ⟨_, _, hd⟩ := Document.ofContent?_eq_some_iff.mp hc
      exact .declares hd (by rw [ha, hc]; rfl) (by rw [hm, hc]; rfl)
  | @resolveFile path suppressUndefined content =>
    have ha := @apply_resolveFile r path content suppressUndefined
    cases hc : Document.ofContent? content with
    | none => exact .nothing (by rw [ha, hc]; rfl) rfl
    | some document =>
      obtain ⟨_, _, hd⟩ := Document.ofContent?_eq_some_iff.mp hc
      exact .resolves hd (by rw [ha, hc]; rfl) rfl

namespace OneLine

theorem declareDocument (h : r.OneLine) (hd : ∀ e ∈ document, '\n' ∉ e.value.toList)
    (hn : (r.declareDocument source document).value.names.Nodup) :
    (r.declareDocument source document).value.OneLine := by
  intro d hm
  have he : ∀ e ∈ document.named.entriesOf d.name, '\n' ∉ e.value.toList :=
    fun e he => hd e (List.mem_filter.mp (List.mem_filter.mp he).left).left
  have hf := find?_of_mem hn hm
  rw [find?_declareDocument_eq] at hf
  by_cases hs : document.named.entriesOf d.name = []
  case pos =>
    rw [hs, Definition.declare_nil] at hf
    exact h d (List.mem_of_find?_eq_some hf)
  case neg =>
    rw [Definition.declare_of_ne_nil hs] at hf
    rw [← Option.some.inj hf]
    refine Definition.OneLine.redeclare ?_ he
    cases hd : r.find? d.name with
    | none    => exact .new d.name
    | some d' => exact h d' (List.mem_of_find?_eq_some hd)

theorem resolveDocument (h : r.OneLine) (hd : ∀ e ∈ document, '\n' ∉ e.value.toList)
    (hn : (r.resolveDocument source suppressUndefined document).value.1.names.Nodup) :
    (r.resolveDocument source suppressUndefined document).value.1.OneLine := by
  intro d hm
  have hf := find?_of_mem hn hm
  rw [find?_resolveDocument] at hf
  have ⟨d', hd', he⟩ := Option.map_eq_some_iff.mp hf
  rw [← he]
  apply (h d' (List.mem_of_find?_eq_some hd')).foldl_offer
  intro text ht
  have ⟨e, hm, _, hv⟩ := mem_textsFor_iff.mp ht
  exact hv ▸ hd e hm

theorem apply (h : r.OneLine) (ho : o.FromText) (hn : (r.apply o).names.Nodup) :
    (r.apply o).OneLine := by
  cases ho.comesTo r with
  | nothing he =>
    rw [he]
    exact h
  | declares hd he =>
    rw [he] at hn ⊢
    exact h.declareDocument (fun _ => Document.newline_not_mem_value hd) hn
  | resolves hd he =>
    rw [he] at hn ⊢
    exact h.resolveDocument (fun _ => Document.newline_not_mem_value hd) hn

-- What comes from texts is made of lines, so no definition gets over the end of one.
theorem after (h : ∀ o ∈ history, o.FromText) : (after history).OneLine := by
  induction history using List.reverseRecOn with
  | nil => exact fun _ hd => nomatch hd
  | append_singleton history o ih =>
    have ⟨hh, ho⟩ := List.forall_mem_append.mp h
    have hn : (Registry.after (history ++ [o])).names.Nodup := nodup_names_after
    rw [after_append_singleton] at hn ⊢
    exact (ih hh).apply (ho o List.mem_cons_self) hn

end OneLine

-- A key that was declared by texts has a name that can stand between the brackets of a heading.
theorem isHeading_of_mem_names (h : ∀ o ∈ history, o.FromText) {name : String}
    (hn : name ∈ (after history).names) : Document.IsHeading name.toList ∧ name ≠ "" := by
  rw [names_after, List.mem_eraseDups] at hn
  have ⟨o, ho, hn⟩ := List.mem_flatMap.mp hn
  cases (h o ho).comesTo {} with
  | nothing _ hm     => exact absurd (hm ▸ hn) List.not_mem_nil
  | declares hd _ hm => exact Document.isHeading_of_mem_headings hd (hm ▸ hn)
  | resolves _ _ hm  => exact absurd (hm ▸ hn) List.not_mem_nil

end Registry
end BuildConfig
