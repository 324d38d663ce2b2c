import BuildConfig.CommandLine.Execution
import BuildConfig.Files.Volume

namespace BuildConfig

theorem Volume.writeText_unlimited {tree : FileTree} {path text : String} :
    (unlimited tree).writeText path text =
      ((tree.writeText path text).map fun _ => (),
        unlimited ((tree.writeText path text).toOption.getD tree)) := by
  have ho : (unlimited tree).opened path = tree.target path := bind_pure _
  rw [writeText, ho, FileTree.writeText]
  cases tree.target path with
  | error cause => rfl
  | ok l =>
    have hv : (unlimited tree).tree.node? l = tree.node? l := rfl
    simp only [fill, hv]
    cases tree.node? l with
    | none => rfl
    | some node =>
      cases node with
      | fullDevice => by_cases h : text = "" <;> simp only [h, if_true, if_false] <;> rfl
      | _          => rfl

-- A program does the same on a tree and on a medium that takes everything.
def Agrees {α : Type} (onTree : StateM FileTree α) (onVolume : StateM Volume α) : Prop :=
  ∀ tree, onVolume (.unlimited tree) = ((onTree tree).1, .unlimited (onTree tree).2)

namespace Agrees
variable {α β : Type} {p : StateM FileTree α} {q : StateM Volume α}
variable {f : α → StateM FileTree β} {g : α → StateM Volume β} {path text : String}

theorem pure (a : α) : Agrees (pure a) (pure a) :=
  fun _ => rfl

theorem bind (h : Agrees p q) (hf : ∀ a, Agrees (f a) (g a)) : Agrees (p >>= f) (q >>= g) := by
  intro tree
  change g (q (.unlimited tree)).1 (q (.unlimited tree)).2 = _
  rw [h tree]
  exact hf _ _

theorem mapM (h : ∀ a, Agrees (f a) (g a)) (as : List α) : Agrees (as.mapM f) (as.mapM g) := by
  induction as with
  | nil => exact pure []
  | cons a as ih =>
    rw [List.mapM_cons, List.mapM_cons]
    exact (h a).bind fun _ => ih.bind fun _ => pure _

theorem readText : Agrees (readText path) (readText path) :=
  fun _ => rfl

theorem existsAt : Agrees (existsAt path) (existsAt path) :=
  fun _ => rfl

theorem writeText : Agrees (writeText path text) (writeText path text) := by
  intro tree
  change (Volume.unlimited tree).writeText path text = _
  rw [Volume.writeText_unlimited]
  cases h : tree.writeText path text with
  | ok written => rw [FileAccess.writeText_tree_ok h]; rfl
  | error e    => rw [FileAccess.writeText_tree_error h]; rfl

theorem readSource : Agrees (readSource path) (readSource path) :=
  readText.bind fun _ => .pure _

theorem generateArtifact {naming : Naming} {r : Registry} {a : Artifact} :
    Agrees (a.generate naming r) (a.generate naming r) :=
  writeText.bind fun result =>
    match result with
    | .ok _                 => .pure _
    | .error (.atOpening _) => .pure _
    | .error (.atWriting _) => .pure _

theorem generateAll {o : Options} {r : Registry} {resolution : Resolution} :
    Agrees (generateAll o r resolution) (generateAll o r resolution) :=
  (mapM (fun _ => generateArtifact) o.artifacts).bind fun _ => .pure _

theorem run (o : Options) : Agrees (run o) (run o) := by
  rw [BuildConfig.run, BuildConfig.run]
  split
  case isTrue => exact .pure _
  case isFalse =>
    refine (mapM (fun _ => readSource) o.definitions).bind fun definitions => readSource.bind fun config => ?_
    dsimp only
    split
    case h_1 => exact .pure _
    case h_2 => exact generateAll.bind fun _ => .pure _

theorem load : Agrees (Settings.load path) (Settings.load path) :=
  readText.bind fun content =>
    match content with
    | .error _ => .pure _
    | .ok _    => .pure _

theorem writeTemplate {directory : Option String} :
    Agrees (Settings.writeTemplate directory) (Settings.writeTemplate directory) := by
  refine existsAt.bind fun found => ?_
  cases found
  case true => exact .pure _
  case false =>
    exact writeText.bind fun result =>
      match result with
      | .ok _    => .pure _
      | .error _ => .pure _

open CommandLine

theorem createSettings {palette : Palette} : Agrees (createSettings palette) (createSettings palette) :=
  writeTemplate.bind fun result =>
    match result with
    | .ok _    => .pure _
    | .error _ => .pure _

theorem loadSettings (path? : Option String) : Agrees (loadSettings path?) (loadSettings path?) := by
  cases path? with
  | none => exact .pure _
  | some path =>
    exact load.bind fun result =>
      match result with
      | .ok _    => .pure _
      | .error _ => .pure _

theorem generate {palette : Palette} {i : Invocation} :
    Agrees (generate palette i) (generate palette i) := by
  refine (loadSettings i.settings).bind fun settings => (run _).bind fun result => ?_
  dsimp only
  split
  case h_1 => exact .pure _
  case h_2 => exact .pure _

end Agrees

-- What holds of commands on every tree holds of commands on every medium that takes everything.
theorem CommandLine.execute_unlimited (env : Environment) (arguments : List String) :
    Agrees (execute env arguments) (execute env arguments) := by
  rw [execute, execute]
  split
  case h_1 => exact .pure _
  case h_2 => exact .pure _
  case h_3 i h =>
    rw [Invocation.execute, Invocation.execute]
    by_cases hv : .version ∈ i.switches
    case pos =>
      rw [if_pos hv, if_pos hv]
      exact .pure _
    case neg =>
      rw [if_neg hv, if_neg hv]
      split
      case isTrue  => exact .createSettings
      case isFalse => exact .generate

end BuildConfig
