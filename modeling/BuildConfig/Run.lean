import BuildConfig.Options
import BuildConfig.Registry.Declaration
import BuildConfig.Registry.Resolution

namespace BuildConfig

-- What ends a run before anything is written.
inductive RunError
  | noDefinitionFiles
  | unreadableConfig (path : String) (cause : FileError)
  | malformedConfig (path : String) (error : Document.Error)
  | missingValue (name : String)
  deriving DecidableEq

namespace RunError

def message : RunError → String
  | noDefinitionFiles           => "no definition files"
  | unreadableConfig path cause => path ++ ": " ++ cause.message
  | malformedConfig path error  => path ++ ": parse error: " ++ error.message
  | missingValue name           => "key " ++ name ++ " requires a value!"

-- The message of the error behind this one.
def cause? : RunError → Option String
  | unreadableConfig _ cause => some cause.message
  | malformedConfig _ error  => some error.message
  | _                        => none

end RunError

namespace Registry

-- Takes in the configuration file at a path, which has to be readable to its end.
def resolveFile (r : Registry) (path : String) (suppressUndefined : Bool)
    (content : Except FileError String) : Reported (Except RunError (Registry × Resolution)) :=
  match content with
  | .error cause => pure (.error (.unreadableConfig path cause))
  | .ok text =>
    match Document.read text with
    | .error e     => pure (.error (.malformedConfig path e))
    | .ok document => .ok <$> r.resolveDocument path suppressUndefined document

def checkRequired (r : Registry) : Except RunError Unit :=
  match r.missing? with
  | some d => .error (.missingValue d.name)
  | none   => .ok ()

end Registry

def Registry.ofSources (sources : List Source) : Reported Registry :=
  sources.foldlM (fun r (path, content) => (·.1) <$> r.declareFile path content) {}

-- The registry that a run works with, in its final state.
def configure (definitions : List Source) (config : Source) (suppressUndefined : Bool) :
    Reported (Except RunError (Registry × Resolution)) := do
  let declared ← Registry.ofSources definitions
  match ← declared.resolveFile config.1 suppressUndefined config.2 with
  | .error e                => return .error e
  | .ok (resolved, counts)  => return resolved.checkRequired.map fun _ => (resolved, counts)

structure Report where
  definitions : Nat
  resolution : Resolution
  written : Nat
  failed : Nat
  deriving DecidableEq

variable {m : Type → Type} [Monad m] [FileAccess m]

-- Writes all artifacts in order. One that cannot be written does not keep the others from it.
def generateAll (o : Options) (r : Registry) (resolution : Resolution) : m (Reported Report) := do
  let generated ← o.artifacts.mapM (·.generate o.naming r)
  let report := {
    definitions := r.definitions.length
    resolution
    written := generated.countP (·.value)
    failed := generated.countP (!·.value) }
  return ⟨report, generated.flatMap (·.warnings)⟩

-- Reads everything first and writes only when nothing is missing.
def run (o : Options) : m (Reported (Except RunError Report)) := do
  if o.definitions = [] then
    return ⟨.error .noDefinitionFiles, []⟩
  else
    let definitions ← o.definitions.mapM readSource
    let config ← readSource o.config
    let configured := configure definitions config o.suppressUndefined
    match configured.value with
    | .error e => return ⟨.error e, configured.warnings⟩
    | .ok (r, resolution) =>
      let report ← generateAll o r resolution
      return ⟨.ok report.value, configured.warnings ++ report.warnings⟩

-- What a run on a file tree has to work with before it writes.
def configureFrom (tree : FileTree) (o : Options) :
    Reported (Except RunError (Registry × Resolution)) :=
  configure (o.definitions.map tree.source) (tree.source o.config) o.suppressUndefined

section
variable {σ : Type} [FileAccess (StateM σ)] {o : Options} {s : σ}

theorem run_nil (h : o.definitions = []) :
    (run o : StateM σ _) s = (⟨.error .noDefinitionFiles, []⟩, s) := by
  unfold run
  rw [if_pos h]
  rfl

variable [ShowsTree σ]

theorem run_of_error {e : RunError} (h : o.definitions ≠ [])
    (he : (configureFrom (shown s) o).value = .error e) :
    (run o : StateM σ _) s = (⟨.error e, (configureFrom (shown s) o).warnings⟩, s) := by
  unfold configureFrom at he ⊢
  unfold run
  rw [if_neg h]
  simp only [bind, StateT.bind, mapM_readSource, readSource_shown, he]
  rfl

theorem run_of_ok {r : Registry} {resolution : Resolution} (h : o.definitions ≠ [])
    (hr : (configureFrom (shown s) o).value = .ok (r, resolution)) :
    (run o : StateM σ _) s =
      let (report, written) := (generateAll o r resolution : StateM σ _) s
      (⟨.ok report.value, (configureFrom (shown s) o).warnings ++ report.warnings⟩, written) := by
  unfold configureFrom at hr ⊢
  unfold run
  rw [if_neg h]
  simp only [bind, StateT.bind, mapM_readSource, readSource_shown, hr]
  rfl

end

variable {o : Options} {tree : FileTree}

theorem run_tree_nil (h : o.definitions = []) :
    (run o : StateM FileTree _) tree = (⟨.error .noDefinitionFiles, []⟩, tree) :=
  run_nil h

theorem run_tree_of_error {e : RunError} (h : o.definitions ≠ [])
    (he : (configureFrom tree o).value = .error e) :
    (run o : StateM FileTree _) tree = (⟨.error e, (configureFrom tree o).warnings⟩, tree) :=
  run_of_error h he

theorem run_tree_of_ok {r : Registry} {resolution : Resolution} (h : o.definitions ≠ [])
    (hr : (configureFrom tree o).value = .ok (r, resolution)) :
    (run o : StateM FileTree _) tree =
      let (report, written) := (generateAll o r resolution : StateM FileTree _) tree
      (⟨.ok report.value, (configureFrom tree o).warnings ++ report.warnings⟩, written) :=
  run_of_ok h hr

end BuildConfig
