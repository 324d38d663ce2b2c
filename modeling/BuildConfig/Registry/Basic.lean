import BuildConfig.Value.Coercion

namespace BuildConfig

-- A configuration key as the definition files declare it. The macro name `define` is empty for a
-- key that is not emitted.
structure Definition where
  name : String
  description : String := ""
  define : String := ""
  required : Bool := false
  defaultText : Option String := none
  type : ValueType := .string
  assigned : Option Value := none
  deriving DecidableEq

namespace Definition

-- A key to which nothing is assigned holds the empty value of its type.
def value (d : Definition) : Value :=
  d.assigned.getD (.empty d.type)

def hasValue (d : Definition) : Bool :=
  d.assigned.isSome

-- Declaring another type discards the value.
def retype (d : Definition) (type : ValueType) : Definition :=
  if d.type = type then d else { d with type := type, assigned := none }

def clear (d : Definition) : Definition :=
  { d with assigned := none }

-- A text that does not fit the type changes nothing.
def assign (d : Definition) (text : String) : Except Misfit Definition :=
  (Value.coerce d.type text).map fun v => { d with assigned := some v }

theorem name_retype {d : Definition} {type : ValueType} : (d.retype type).name = d.name := by
  unfold retype
  split <;> rfl

theorem assign_eq_ok_iff {d d' : Definition} {text : String} :
    d.assign text = .ok d' ↔ ∃ v, Value.read? d.type text = some v ∧ d' = { d with assigned := some v } := by
  unfold assign Value.coerce
  cases Value.read? d.type text <;> simp [Except.map, eq_comm]

theorem name_assign {d d' : Definition} {text : String} (h : d.assign text = .ok d') :
    d'.name = d.name := by
  obtain ⟨_, _, rfl⟩ := assign_eq_ok_iff.mp h
  rfl

end Definition

-- The declared keys in the order of their first mention.
structure Registry where
  definitions : List Definition := []
  deriving DecidableEq

namespace Registry

def names (r : Registry) : List String :=
  r.definitions.map (·.name)

def find? (r : Registry) (name : String) : Option Definition :=
  r.definitions.find? (·.name = name)

-- Makes sure that there is a definition of that name.
def declare (r : Registry) (name : String) : Registry :=
  if name ∈ r.names then r else { definitions := r.definitions ++ [{ name := name }] }

-- Changes the definition of that name, if there is one.
def update (r : Registry) (name : String) (f : Definition → Definition) : Registry :=
  { definitions := r.definitions.map fun d => if d.name = name then f d else d }

theorem find?_eq_none_iff {r : Registry} {name : String} : r.find? name = none ↔ name ∉ r.names := by
  simp [find?, names, List.find?_eq_none]

theorem name_of_find? {r : Registry} {name : String} {d : Definition} (h : r.find? name = some d) :
    d.name = name := by
  simpa using List.find?_some h

theorem names_declare {r : Registry} {name : String} :
    (r.declare name).names = if name ∈ r.names then r.names else r.names ++ [name] := by
  unfold declare
  split <;> simp [names]

theorem find?_declare_self {r : Registry} {name : String} :
    (r.declare name).find? name = some ((r.find? name).getD { name := name }) := by
  unfold declare
  split
  case isTrue h =>
    cases hd : r.find? name with
    | none   => exact absurd h (find?_eq_none_iff.mp hd)
    | some d => rfl
  case isFalse h =>
    have hn := find?_eq_none_iff.mpr h
    simp only [find?] at hn ⊢
    simp [List.find?_append, hn]

theorem find?_declare_of_ne {r : Registry} {n₁ n₂ : String} (h : n₂ ≠ n₁) :
    (r.declare n₁).find? n₂ = r.find? n₂ := by
  unfold declare
  split
  case isTrue => rfl
  case isFalse => simp [find?, List.find?_append, h.symm]

-- The change has to keep the name only where it is made.
theorem names_update {r : Registry} {name : String} {f : Definition → Definition}
    (h : ∀ d, d.name = name → (f d).name = name) : (r.update name f).names = r.names := by
  simp only [names, update, List.map_map]
  refine List.map_congr_left fun d _ => ?_
  by_cases hd : d.name = name <;> simp [hd, h]

theorem find?_update_self {r : Registry} {name : String} {f : Definition → Definition}
    (h : ∀ d, d.name = name → (f d).name = name) :
    (r.update name f).find? name = (r.find? name).map f := by
  obtain ⟨definitions⟩ := r
  induction definitions with
  | nil => rfl
  | cons d definitions ih =>
    simp only [find?, update, List.map_cons, List.find?_cons] at ih ⊢
    by_cases hd : d.name = name <;> simp [hd, h, ih]

theorem find?_update_of_ne {r : Registry} {n₁ n₂ : String} {f : Definition → Definition}
    (h : ∀ d, d.name = n₁ → (f d).name = n₁) (hn : n₂ ≠ n₁) :
    (r.update n₁ f).find? n₂ = r.find? n₂ := by
  obtain ⟨definitions⟩ := r
  induction definitions with
  | nil => rfl
  | cons d definitions ih =>
    simp only [find?, update, List.map_cons, List.find?_cons] at ih ⊢
    by_cases hd : d.name = n₁
    case pos => simp [hd, h, hn.symm, ih]
    case neg => simp [hd, ih]

-- The first key that has to have a value and has none.
def missing? (r : Registry) : Option Definition :=
  r.definitions.find? fun d => d.required && !d.hasValue

end Registry
end BuildConfig
