import BuildConfig.Proofs.Registry.History

namespace BuildConfig

section
variable {es : List Entry} {key text : String}

theorem lastValue?_eq_getLast? : lastValue? es key = (Document.textsFor es key).getLast? := by
  rw [lastValue?, Document.textsFor, List.getLast?_map]

theorem mem_textsFor_iff :
    text ∈ Document.textsFor es key ↔ ∃ e ∈ es, e.key = key ∧ e.value = text := by
  simp [Document.textsFor, and_assoc]

theorem eq_nil_iff_textsFor : es = [] ↔ ∀ key, Document.textsFor es key = [] := by
  constructor
  case mp =>
    rintro rfl _
    rfl
  case mpr =>
    intro h
    refine List.eq_nil_iff_forall_not_mem.mpr fun e he => ?_
    have ht : e.value ∈ Document.textsFor es e.key := mem_textsFor_iff.mpr ⟨e, he, rfl, rfl⟩
    rw [h] at ht
    contradiction

theorem any_affectsDefault_iff :
    es.any (·.affectsDefault) ↔
      Document.textsFor es "type" ≠ [] ∨ Document.textsFor es "value" ≠ [] := by
  have hk (key : String) : Document.textsFor es key ≠ [] ↔ ∃ e ∈ es, e.key = key := by
    rw [Document.textsFor, ne_eq, List.map_eq_nil_iff, List.filter_eq_nil_iff]
    simp
  rw [hk, hk, List.any_eq_true]
  simp only [Entry.affectsDefault_iff, and_or_left, exists_or]

end

theorem Document.entriesOf_named {document : Document} {name : String} :
    document.named.entriesOf name = if name = "" then [] else document.entriesOf name :=
  @entriesOf_append_named document name []

namespace Definition
variable {d : Definition} {d? : Option Definition} {name : String} {es : List Entry}

-- What is assigned stays only if each declared type is the one that the key has already.
theorem assigned_foldl_take_eq :
    (es.foldl take d).assigned =
      if ∀ token ∈ Document.textsFor es "type", ValueType.ofKeyword token = d.type
      then d.assigned else none := by
  induction es generalizing d with
  | nil => simp [Document.textsFor]
  | cons e es ih =>
    rw [List.foldl_cons, ih, Document.textsFor_cons, take_eq]
    by_cases hk : e.key = "type"
    case neg => simp [hk]
    case pos =>
      by_cases ht : ValueType.ofKeyword e.value = d.type
      case pos => simp [hk, ht]
      case neg => simp [hk, ht, Ne.symm ht]

-- All that the entries of a section can change, each field by its own texts.
theorem foldl_take_eq :
    es.foldl take d = { d with
      description := (lastValue? es "description").elim d.description id
      define      := (lastValue? es "define").elim d.define id
      required    := (lastValue? es "required").elim d.required Value.truth
      defaultText := (lastValue? es "value").elim d.defaultText some
      type        := (lastValue? es "type").elim d.type .ofKeyword
      assigned    :=
        if ∀ token ∈ Document.textsFor es "type", ValueType.ofKeyword token = d.type
        then d.assigned else none } := by
  ext1
  case name        => exact name_foldl_take
  case description => exact description_foldl_take
  case define      => exact define_foldl_take
  case required    => exact required_foldl_take
  case defaultText => exact defaultText_foldl_take
  case type        => exact type_foldl_take
  case assigned    => exact assigned_foldl_take_eq

-- What the entries of a section, of which there are some, do to its key.
def redeclare (d : Definition) (es : List Entry) : Definition :=
  if es.any (·.affectsDefault) then (es.foldl take d).settled else es.foldl take d

theorem declare_nil : declare name d? [] = d? :=
  rfl

theorem declare_of_ne_nil (h : es ≠ []) :
    declare name d? es = some ((d?.getD { name := name }).redeclare es) := by
  obtain ⟨e, es, rfl⟩ := List.exists_cons_of_ne_nil h
  rw [declare, foldl_mention, redeclare]
  split <;> rfl

end Definition

namespace Registry
variable {r : Registry} {name source : String} {mentioned : List String} {document : Document}

theorem nodup_names_declareDocument (h : r.names = mentioned.eraseDups) :
    (r.declareDocument source document).value.names.Nodup :=
  names_declareDocument h ▸ nodup_eraseDups _

-- A document does to each key what its section says, and nothing to a key without a name.
theorem find?_declareDocument_eq :
    (r.declareDocument source document).value.find? name =
      Definition.declare name (r.find? name) (document.named.entriesOf name) := by
  rw [Document.entriesOf_named]
  by_cases hn : name = ""
  case pos =>
    rw [if_pos hn, hn]
    exact find?_declareDocument_empty
  case neg =>
    rw [if_neg hn]
    exact find?_declareDocument hn

end Registry
end BuildConfig
