import BuildConfig.Proofs.Registry.Resolution
import BuildConfig.Proofs.Registry.Typed
import Mathlib.Data.List.Nodup

namespace BuildConfig

-- The changes that can be made to one definition directly.
inductive Edit
  | description (text : String)
  | define (text : String)
  | required (required : Bool)
  | defaultText (text? : Option String)
  | type (type : ValueType)
  | value (text : String)
  | clear

namespace Definition

-- A text that does not fit the type changes nothing.
def edit (d : Definition) : Edit → Definition
  | .description text  => { d with description := text }
  | .define text       => { d with define := text }
  | .required required => { d with required := required }
  | .defaultText text? => { d with defaultText := text? }
  | .type type         => d.retype type
  | .value text        => (d.assign text).toOption.getD d
  | .clear             => d.clear

variable {d : Definition} {e : Edit}

theorem name_edit : (d.edit e).name = d.name := by
  cases e with
  | type type => exact name_retype
  | value text =>
    rw [edit]
    cases h : d.assign text with
    | error m => rfl
    | ok d'   => exact name_assign h
  | _ => rfl

theorem Typed.edit (h : d.Typed) : (d.edit e).Typed := by
  cases e with
  | type type => exact h.retype
  | clear     => exact .of_unassigned rfl
  | value text =>
    rw [Definition.edit]
    cases ha : d.assign text with
    | error m => exact h
    | ok d'   => exact .assign ha
  | _ => exact h

end Definition

namespace Registry

-- The operations that change a registry. A file comes with what reading it gave.
inductive Operation
  | declare (name : String)
  | edit (name : String) (e : Edit)
  | declareDocument (source : String) (document : Document)
  | resolveDocument (source : String) (suppressUndefined : Bool) (document : Document)
  | declareFile (path : String) (content : Except FileError String)
  | resolveFile (path : String) (suppressUndefined : Bool) (content : Except FileError String)

-- The registry after an operation, which is the same as before where the operation fails.
def apply (r : Registry) : Operation → Registry
  | .declare name                => r.declare name
  | .edit name e                 => r.update name (·.edit e)
  | .declareDocument source document => (r.declareDocument source document).value
  | .resolveDocument source suppressUndefined document =>
    (r.resolveDocument source suppressUndefined document).value.1
  | .declareFile path content    => (r.declareFile path content).value.1
  | .resolveFile path suppressUndefined content =>
    match (r.resolveFile path suppressUndefined content).value with
    | .error _            => r
    | .ok (resolved, _) => resolved

-- The registry that a history of operations leads to from nothing.
def after (history : List Operation) : Registry :=
  history.foldl apply {}

-- The names that an operation mentions in order to declare them.
def Operation.mentions : Operation → List String
  | declare name               => [name]
  | declareDocument _ document => document.named.map (·.heading)
  | declareFile _ content      =>
    ((Document.ofContent? content).elim [] Document.named).map (·.heading)
  | _                          => []

variable {r : Registry} {name source path : String} {mentioned : List String} {document : Document}
variable {content : Except FileError String} {suppressUndefined : Bool} {o : Operation}
variable {history : List Operation}

theorem apply_declareFile :
    r.apply (.declareFile path content) =
      (Document.ofContent? content).elim r fun document =>
        r.apply (.declareDocument path document) :=
  value_declareFile

-- A configuration file that cannot be read to its end is as good as none.
theorem apply_resolveFile :
    r.apply (.resolveFile path suppressUndefined content) =
      (Document.ofContent? content).elim r fun document =>
        r.apply (.resolveDocument path suppressUndefined document) := by
  cases content with
  | error cause => rfl
  | ok text =>
    cases h : Document.read text <;>
      simp [apply, resolveFile, Document.ofContent?, h, Except.toOption]

theorem after_append_singleton : after (history ++ [o]) = (after history).apply o :=
  List.foldl_append

-- An operation keeps the names that are there and appends those that it is the first to mention.
theorem names_apply (h : r.names = mentioned.eraseDups) :
    (r.apply o).names = (mentioned ++ o.mentions).eraseDups := by
  have hk : r.names = (mentioned ++ []).eraseDups := h.trans (by rw [List.append_nil])
  cases o with
  | declare name => exact names_declare_eraseDups h
  | edit name e => exact (names_update fun _ hd => Definition.name_edit.trans hd).trans hk
  | declareDocument source document => exact names_declareDocument h
  | resolveDocument source suppressUndefined document => exact names_resolveDocument.trans hk
  | declareFile path content =>
    rw [apply_declareFile, Operation.mentions]
    cases Document.ofContent? content with
    | none          => exact hk
    | some document => exact names_declareDocument h
  | resolveFile path suppressUndefined content =>
    rw [apply_resolveFile]
    cases Document.ofContent? content with
    | none          => exact hk
    | some document => exact names_resolveDocument.trans hk

theorem names_after : (after history).names = (history.flatMap (·.mentions)).eraseDups := by
  induction history using List.reverseRecOn with
  | nil => rfl
  | append_singleton history o ih =>
    rw [after_append_singleton, names_apply ih, List.flatMap_append, List.flatMap_singleton]

theorem nodup_names_after : (after history).names.Nodup :=
  names_after ▸ nodup_eraseDups _

theorem names_after_isPrefix_apply : (after history).names <+: ((after history).apply o).names := by
  rw [names_apply names_after, List.eraseDups_append, names_after]
  exact List.prefix_append _ _

theorem Typed.apply (h : r.Typed) : (r.apply o).Typed := by
  cases o with
  | declare name => exact h.declare
  | edit name e => exact h.update fun _ hd => hd.edit
  | declareDocument source document => exact h.declareDocument
  | resolveDocument source suppressUndefined document => exact h.resolveDocument
  | declareFile path content =>
    rw [apply_declareFile]
    cases Document.ofContent? content with
    | none          => exact h
    | some document => exact h.declareDocument
  | resolveFile path suppressUndefined content =>
    rw [apply_resolveFile]
    cases Document.ofContent? content with
    | none          => exact h
    | some document => exact h.resolveDocument

theorem Typed.after (history : List Operation) : (after history).Typed :=
  List.foldlRecOn history _ empty fun _ h _ _ => h.apply

theorem find?_eq_some_iff {d : Definition} (h : r.names.Nodup) :
    r.find? name = some d ↔ d ∈ r.definitions ∧ d.name = name := by
  constructor
  case mp  => exact fun hd => ⟨List.mem_of_find?_eq_some hd, name_of_find? hd⟩
  case mpr =>
    rintro ⟨hd, rfl⟩
    exact find?_of_mem h hd

end Registry
end BuildConfig
