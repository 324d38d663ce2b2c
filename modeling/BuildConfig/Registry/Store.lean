import BuildConfig.Run
import Std.Data.HashMap

namespace BuildConfig

-- A definition as it is kept. What it holds and whether that was assigned are told apart, so both have to be
-- set wherever one of them is.
structure Record where
  name : String
  description : String := ""
  define : String := ""
  required : Bool := false
  defaultText : Option String := none
  type : ValueType := .string
  value : Value := .string ""
  hasValue : Bool := false
  deriving DecidableEq

namespace Record

def retype (d : Record) (type : ValueType) : Record :=
  if d.type = type then d else { d with type := type, value := .empty type, hasValue := false }

def clear (d : Record) : Record :=
  { d with value := .empty d.type, hasValue := false }

def assign (d : Record) (text : String) : Except Misfit Record :=
  (Value.coerce d.type text).map fun v => { d with value := v, hasValue := true }

def give (d : Record) (text : String) : Field → Record
  | .description => { d with description := text }
  | .type        => d.retype (.ofKeyword text)
  | .define      => { d with define := text }
  | .value       => { d with defaultText := some text }
  | .required    => { d with required := Value.truth text }

def settle (source : String) (d : Record) : Reported Record :=
  match d.defaultText with
  | none => pure d
  | some text =>
    match d.assign text with
    | .ok settled   => pure settled
    | .error misfit => ⟨d.clear, [.rejectedDefault source d.name misfit]⟩

-- The definition without the value that nobody assigned.
def compact (d : Record) : Definition where
  name        := d.name
  description := d.description
  define      := d.define
  required    := d.required
  defaultText := d.defaultText
  type        := d.type
  assigned    := if d.hasValue then some d.value else none

end Record

-- A registry as it is kept: the definitions in a row, and an index that tells the place of each name.
structure Store where
  records : Array Record := #[]
  index : Std.HashMap String Nat := {}

namespace Store

def names (s : Store) : List String :=
  s.records.toList.map (·.name)

-- Names are looked up in the index, never in the row.
def find? (s : Store) (name : String) : Option Record :=
  s.index[name]?.bind (s.records[·]?)

-- A name that is not in the index gets the next place in the row.
def declare (s : Store) (name : String) : Store :=
  match s.index[name]? with
  | some _ => s
  | none   => {
      records := s.records.push { name := name }
      index   := s.index.insert name s.records.size }

-- Changes the definition at the place that the index tells.
def update (s : Store) (name : String) (f : Record → Record) : Store :=
  match s.index[name]? with
  | some i => { s with records := s.records.modify i f }
  | none   => s

def compact (s : Store) : Registry where
  definitions := s.records.toList.map (·.compact)

structure Declaring where
  store : Store
  unsettled : List String := []

namespace Declaring

def mention (s : Declaring) (heading : String) : Declaring :=
  { s with store := s.store.declare heading }

def give (s : Declaring) (heading text : String) (f : Field) : Declaring where
  store     := s.store.update heading (·.give text f)
  unsettled :=
    if f.affectsDefault ∧ heading ∉ s.unsettled then s.unsettled ++ [heading] else s.unsettled

end Declaring

def declareEntry (source : String) (s : Declaring) (e : Entry) : Reported Declaring :=
  if e.heading = "" then do
    .warn (.keyOutsideSection source e.line e.key)
    return s
  else
    match Field.ofKeyword? e.key with
    | none => do
      .warn (.unknownField source e.heading e.key)
      return s.mention e.heading
    | some f => do
      .warnIf (f = .type ∧ ValueType.ofKeyword? e.value = none) (.unknownType source e.heading e.value)
      return (s.mention e.heading).give e.heading e.value f

def settleDefault (source : String) (s : Store) (name : String) : Reported Store :=
  match s.find? name with
  | none   => pure s
  | some d => do
    let settled ← d.settle source
    return s.update name fun _ => settled

def declareDocument (source : String) (s : Store) (document : Document) : Reported Store := do
  let declared ← document.foldlM (declareEntry source) { store := s }
  declared.unsettled.foldlM (settleDefault source) declared.store

def declareFile (s : Store) (path : String) (content : Except FileError String) :
    Reported (Store × Bool) := do
  match content with
  | .error cause =>
    .warn (.unreadableDefinitions path cause)
    return (s, false)
  | .ok text =>
    match Document.read text with
    | .error e =>
      .warn (.malformedDefinitions path e)
      return (s, false)
    | .ok document =>
      return (← s.declareDocument path document, true)

structure Resolving where
  store : Store
  counts : Resolution := {}

namespace Resolving

def missed (s : Resolving) : Resolving :=
  { s with counts.undefinedKeys := s.counts.undefinedKeys + 1 }

def refused (s : Resolving) : Resolving :=
  { s with counts.rejected := s.counts.rejected + 1 }

def stored (s : Resolving) (key : String) (d : Record) : Resolving where
  store  := s.store.update key fun _ => d
  counts := { s.counts with resolved := s.counts.resolved + 1 }

end Resolving

def resolveEntry (source : String) (suppressUndefined : Bool) (s : Resolving) (e : Entry) :
    Reported Resolving :=
  match s.store.find? e.key with
  | none => do
    .warnIf (suppressUndefined = false) (.undefinedKey source e.key)
    return s.missed
  | some d =>
    match d.assign e.value with
    | .ok assigned  => pure (s.stored e.key assigned)
    | .error misfit => do
      .warn (.rejectedValue source e.key misfit)
      return s.refused

def resolveDocument (source : String) (suppressUndefined : Bool) (s : Store) (document : Document) :
    Reported (Store × Resolution) := do
  let resolved ← document.foldlM (resolveEntry source suppressUndefined) { store := s }
  return (resolved.store, resolved.counts)

def resolveFile (s : Store) (path : String) (suppressUndefined : Bool)
    (content : Except FileError String) : Reported (Except RunError (Store × Resolution)) :=
  match content with
  | .error cause => pure (.error (.unreadableConfig path cause))
  | .ok text =>
    match Document.read text with
    | .error e     => pure (.error (.malformedConfig path e))
    | .ok document => .ok <$> s.resolveDocument path suppressUndefined document

end Store
end BuildConfig
