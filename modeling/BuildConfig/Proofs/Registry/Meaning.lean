import BuildConfig.Proofs.Registry.Declaration

namespace BuildConfig

-- The value of the last entry with a key.
def lastValue? (es : List Entry) (key : String) : Option String :=
  ((es.filter (·.key = key)).getLast?).map (·.value)

-- The value of the last text that fits a type.
def lastFitting? (type : ValueType) (texts : List String) : Option Value :=
  (texts.filterMap (Value.read? type)).getLast?

-- The type that the entries of a section declare.
def declaredType (es : List Entry) : ValueType :=
  (lastValue? es "type").elim .string .ofKeyword

-- What a key is by the entries of its section and the texts that are given for its value.
def Definition.meaning (name : String) (es : List Entry) (texts : List String) : Definition where
  name        := name
  description := (lastValue? es "description").getD ""
  define      := (lastValue? es "define").getD ""
  required    := (lastValue? es "required").any Value.truth
  defaultText := lastValue? es "value"
  type        := declaredType es
  assigned    :=
    (lastFitting? (declaredType es) texts).or
      ((lastValue? es "value").bind (Value.read? (declaredType es)))

theorem lastFitting?_eq_none_iff {type : ValueType} {texts : List String} :
    lastFitting? type texts = none ↔ ∀ text ∈ texts, Value.read? type text = none := by
  rw [lastFitting?, List.getLast?_eq_none_iff, List.filterMap_eq_nil_iff]

theorem lastValue?_append {es₁ es₂ : List Entry} {key : String} :
    lastValue? (es₁ ++ es₂) key = (lastValue? es₂ key).or (lastValue? es₁ key) := by
  simp only [lastValue?, List.filter_append, List.getLast?_append]
  cases (es₂.filter (·.key = key)).getLast? <;> simp

theorem lastValue?_cons {e : Entry} {es : List Entry} {key : String} :
    lastValue? (e :: es) key =
      (lastValue? es key).or (if e.key = key then some e.value else none) := by
  rw [← List.singleton_append, lastValue?_append]
  by_cases h : e.key = key <;> simp [lastValue?, h]

theorem lastValue?_eq_none {es : List Entry} {key : String} (h : ∀ e ∈ es, e.key ≠ key) :
    lastValue? es key = none := by
  have : es.filter (·.key = key) = [] := List.filter_eq_nil_iff.mpr (by simpa using h)
  rw [lastValue?, this]
  rfl

theorem Field.ofKeyword?_eq_some_iff {key : String} {f : Field} :
    ofKeyword? key = some f ↔ key = f.keyword := by
  constructor
  · intro h
    have : f.keyword = key := by simpa using List.find?_some h
    exact this.symm
  · rintro rfl
    cases f <;> decide

theorem Field.ne_keyword_of_ofKeyword? {key : String} (h : ofKeyword? key = none) (f : Field) :
    key ≠ f.keyword := by
  intro hk
  rw [ofKeyword?_eq_some_iff.mpr hk] at h
  contradiction

theorem Entry.affectsDefault_iff {e : Entry} :
    e.affectsDefault ↔ e.key = "type" ∨ e.key = "value" := by
  rw [affectsDefault]
  cases hf : Field.ofKeyword? e.key with
  | none =>
    have h := Field.ne_keyword_of_ofKeyword? hf
    simpa using ⟨h .type, h .value⟩
  | some f =>
    rw [Field.ofKeyword?_eq_some_iff.mp hf]
    cases f <;> decide

attribute [ext] Definition

namespace Definition

variable {d : Definition} {e : Entry} {es : List Entry}

theorem retype_eq {type : ValueType} :
    d.retype type =
      { d with type := type, assigned := if d.type = type then d.assigned else none } := by
  rw [retype]
  split
  case isTrue h  => simp [← h]
  case isFalse h => rfl

-- All that one entry can change.
theorem take_eq :
    d.take e = { d with
      description := if e.key = "description" then e.value else d.description
      define      := if e.key = "define" then e.value else d.define
      required    := if e.key = "required" then Value.truth e.value else d.required
      defaultText := if e.key = "value" then some e.value else d.defaultText
      type        := if e.key = "type" then .ofKeyword e.value else d.type
      assigned    :=
        if e.key = "type" ∧ d.type ≠ .ofKeyword e.value then none else d.assigned } := by
  rw [take]
  cases hf : Field.ofKeyword? e.key with
  | none =>
    have h := Field.ne_keyword_of_ofKeyword? hf
    have hd : e.key ≠ "description" := h .description
    have ht : e.key ≠ "type" := h .type
    have hm : e.key ≠ "define" := h .define
    have hv : e.key ≠ "value" := h .value
    have hr : e.key ≠ "required" := h .required
    simp [hd, ht, hm, hv, hr]
  | some f =>
    have hk := Field.ofKeyword?_eq_some_iff.mp hf
    cases f <;> simp [hk, give, Field.keyword, retype_eq]

-- A field that each entry with a key overwrites is in the end what the last of them says.
theorem foldl_take_field {α : Type} {field : Definition → α} {key : String} {read : String → α}
    (h : ∀ d e, field (take d e) = if e.key = key then read e.value else field d) :
    field (es.foldl take d) = (lastValue? es key).elim (field d) read := by
  induction es generalizing d with
  | nil => rfl
  | cons e es ih =>
    rw [List.foldl_cons, ih, h, lastValue?_cons]
    cases lastValue? es key <;> by_cases hk : e.key = key <;> simp [hk]

theorem name_foldl_take : (es.foldl take d).name = d.name := by
  induction es generalizing d with
  | nil => rfl
  | cons e es ih => rw [List.foldl_cons, ih, name_take]

theorem description_foldl_take :
    (es.foldl take d).description = (lastValue? es "description").elim d.description id :=
  foldl_take_field fun _ _ => by rw [take_eq]; rfl

theorem define_foldl_take : (es.foldl take d).define = (lastValue? es "define").elim d.define id :=
  foldl_take_field fun _ _ => by rw [take_eq]; rfl

theorem required_foldl_take :
    (es.foldl take d).required = (lastValue? es "required").elim d.required Value.truth :=
  foldl_take_field fun _ _ => by rw [take_eq]

theorem defaultText_foldl_take :
    (es.foldl take d).defaultText = (lastValue? es "value").elim d.defaultText some :=
  foldl_take_field fun _ _ => by rw [take_eq]

theorem type_foldl_take :
    (es.foldl take d).type = (lastValue? es "type").elim d.type ValueType.ofKeyword :=
  foldl_take_field fun _ _ => by rw [take_eq]

-- Entries never assign a value. They only keep or discard it.
theorem assigned_foldl_take (h : d.assigned = none) : (es.foldl take d).assigned = none := by
  induction es generalizing d with
  | nil => exact h
  | cons e es ih =>
    refine ih ?_
    rw [take_eq]
    simp [h]

theorem assigned_foldl_take_of_not_any (h : es.any (·.affectsDefault) = false) :
    (es.foldl take d).assigned = d.assigned := by
  induction es generalizing d with
  | nil => rfl
  | cons e es ih =>
    have ⟨he, hes⟩ := Bool.or_eq_false_iff.mp h
    have hk : e.key ≠ "type" := fun hk => by simp [Entry.affectsDefault_iff.mpr (.inl hk)] at he
    rw [List.foldl_cons, ih hes, take_eq]
    simp [hk]

theorem foldl_mention (name : String) (d? : Option Definition) (e : Entry) (es : List Entry) :
    (e :: es).foldl (mention name) d? =
      some ((e :: es).foldl take (d?.getD { name := name })) := by
  induction es generalizing d? e with
  | nil => rfl
  | cons e' es ih =>
    rw [List.foldl_cons, ih]
    rfl

section
variable {name : String} {es₁ es₂ : List Entry}

-- Apart from what is assigned, further entries make of a key what all entries together say.
theorem foldl_take_meaning :
    es₂.foldl take (meaning name es₁ []) =
      { meaning name (es₁ ++ es₂) [] with
        assigned := (es₂.foldl take (meaning name es₁ [])).assigned } := by
  ext1
  case name => exact name_foldl_take
  case description =>
    simp only [description_foldl_take, meaning, lastValue?_append]
    cases lastValue? es₂ "description" <;> simp
  case define =>
    simp only [define_foldl_take, meaning, lastValue?_append]
    cases lastValue? es₂ "define" <;> simp
  case required =>
    simp only [required_foldl_take, meaning, lastValue?_append]
    cases lastValue? es₂ "required" <;> simp
  case defaultText =>
    simp only [defaultText_foldl_take, meaning, lastValue?_append]
    cases lastValue? es₂ "value" <;> simp
  case type =>
    simp only [type_foldl_take, meaning, declaredType, lastValue?_append]
    cases lastValue? es₂ "type" <;> simp
  case assigned => rfl

theorem assigned_meaning_nil :
    (meaning name es₁ []).assigned =
      (lastValue? es₁ "value").bind (Value.read? (declaredType es₁)) :=
  rfl

-- After the defaults are read again, nothing shows that the entries came in two parts.
theorem settled_foldl_take_meaning :
    (es₂.foldl take (meaning name es₁ [])).settled = meaning name (es₁ ++ es₂) [] := by
  rw [settled, foldl_take_meaning]
  ext1 <;> try rfl
  change Option.elim (lastValue? (es₁ ++ es₂) "value") _ (Value.read? (declaredType (es₁ ++ es₂))) =
    (lastValue? (es₁ ++ es₂) "value").bind (Value.read? (declaredType (es₁ ++ es₂)))
  cases h : lastValue? (es₁ ++ es₂) "value" with
  | some text => rfl
  | none =>
    have h₁ : lastValue? es₁ "value" = none := by
      rw [lastValue?_append] at h
      exact (Option.or_eq_none_iff.mp h).right
    exact assigned_foldl_take (by rw [assigned_meaning_nil, h₁]; rfl)

theorem foldl_take_meaning_of_not_any (h : es₂.any (·.affectsDefault) = false) :
    es₂.foldl take (meaning name es₁ []) = meaning name (es₁ ++ es₂) [] := by
  have hk : ∀ e ∈ es₂, e.key ≠ "type" ∧ e.key ≠ "value" := by
    intro e he
    have := List.any_eq_false.mp h e he
    rwa [Entry.affectsDefault_iff, not_or] at this
  have ht : lastValue? es₂ "type" = none := lastValue?_eq_none fun e he => (hk e he).left
  have hv : lastValue? es₂ "value" = none := lastValue?_eq_none fun e he => (hk e he).right
  rw [foldl_take_meaning]
  ext1 <;> try rfl
  simp only [assigned_foldl_take_of_not_any h, assigned_meaning_nil, declaredType,
    lastValue?_append, ht, hv]
  rfl

-- What is known of a key that may not have been mentioned.
def known (name : String) (es : List Entry) : Option Definition :=
  if es = [] then none else some (meaning name es [])

theorem declare_known : declare name (known name es₁) es₂ = known name (es₁ ++ es₂) := by
  cases es₂ with
  | nil => simp [declare]
  | cons e es₂ =>
    have hd : (known name es₁).getD { name := name } = meaning name es₁ [] := by
      rw [known]
      split
      case isTrue h  => rw [h]; rfl
      case isFalse h => rfl
    have hk : known name (es₁ ++ e :: es₂) = some (meaning name (es₁ ++ e :: es₂) []) :=
      if_neg (by simp)
    rw [hk, declare, foldl_mention, hd]
    split
    case isTrue => exact congrArg some settled_foldl_take_meaning
    case isFalse ha =>
      exact congrArg some (foldl_take_meaning_of_not_any (Bool.eq_false_iff.mpr ha))

end
end Definition
end BuildConfig
