import BuildConfig.Document.Reader
import BuildConfig.Registry.Basic
import BuildConfig.Warning

namespace BuildConfig

-- What a definition file can say about a key.
inductive Field
  | description
  | type
  | define
  | value
  | required
  deriving DecidableEq

namespace Field

def all : List Field :=
  [description, type, define, value, required]

def keyword : Field → String
  | description => "description"
  | type        => "type"
  | define      => "define"
  | value       => "value"
  | required    => "required"

def ofKeyword? (key : String) : Option Field :=
  all.find? (·.keyword = key)

-- Whether the default has to be read again after the field was given.
def affectsDefault (f : Field) : Bool :=
  f = type ∨ f = value

end Field

namespace Definition

-- Gives one field. A default is kept as text and read only later, when the type is known.
def give (d : Definition) (text : String) : Field → Definition
  | .description => { d with description := text }
  | .type        => d.retype (.ofKeyword text)
  | .define      => { d with define := text }
  | .value       => { d with defaultText := some text }
  | .required    => { d with required := Value.truth text }

theorem name_give {d : Definition} {text : String} {f : Field} : (d.give text f).name = d.name := by
  cases f <;> simp [give, name_retype]

-- Assigns the default, if there is one. A default that does not fit leaves no value at all.
def settle (source : String) (d : Definition) : Reported Definition :=
  match d.defaultText with
  | none => pure d
  | some text =>
    match d.assign text with
    | .ok settled   => pure settled
    | .error misfit => ⟨d.clear, [.rejectedDefault source d.name misfit]⟩

end Definition

namespace Registry

-- A registry in the middle of a document, with the keys whose default is to be read at its end.
structure Declaring where
  registry : Registry
  unsettled : List String := []

namespace Declaring

def mention (s : Declaring) (heading : String) : Declaring :=
  { s with registry := s.registry.declare heading }

def give (s : Declaring) (heading text : String) (f : Field) : Declaring where
  registry  := s.registry.update heading (·.give text f)
  unsettled :=
    if f.affectsDefault ∧ heading ∉ s.unsettled then s.unsettled ++ [heading] else s.unsettled

end Declaring

-- Takes in one entry of a definition document.
def declareEntry (source : String) (s : Declaring) (e : Entry) : Reported Declaring :=
  if e.heading = "" then do
    .warn (.keyOutsideSection source e.line e.key)
    return s
  else
    match Field.ofKeyword? e.key with
    | none => do
      .warn (.unknownField source e.heading e.key)
      return s.mention e.heading
    | some f => do
      .warnIf (f = .type ∧ ValueType.ofKeyword? e.value = none) (.unknownType source e.heading e.value)
      return (s.mention e.heading).give e.heading e.value f

def settleDefault (source : String) (r : Registry) (name : String) : Reported Registry :=
  match r.find? name with
  | none   => pure r
  | some d => do
    let settled ← d.settle source
    return r.update name fun _ => settled

-- Takes in a whole definition document. Defaults are read at the end, so that within a section
-- the order of type and default does not matter.
def declareDocument (source : String) (r : Registry) (document : Document) : Reported Registry := do
  let s ← document.foldlM (declareEntry source) { registry := r }
  s.unsettled.foldlM (settleDefault source) s.registry

-- Takes in the definition file at a path, and tells whether it could be used. Nothing is taken
-- from a file that cannot be read to its end.
def declareFile (r : Registry) (path : String) (content : Except FileError String) :
    Reported (Registry × Bool) := do
  match content with
  | .error cause =>
    .warn (.unreadableDefinitions path cause)
    return (r, false)
  | .ok text =>
    match Document.read text with
    | .error e =>
      .warn (.malformedDefinitions path e)
      return (r, false)
    | .ok document =>
      return (← r.declareDocument path document, true)

end Registry
end BuildConfig
