import BuildConfig.Files.Tree

namespace BuildConfig

-- A context in which files can be read and written.
class FileAccess (m : Type → Type) where
  readText : String → m (Except FileError String)
  writeText : String → String → m (Except WriteError Unit)
  existsAt : String → m Bool

export FileAccess (readText writeText existsAt)

namespace FileAccess

-- A file tree answers from what it holds and takes what is written.
instance : FileAccess (StateM FileTree) where
  readText path := return (← get).readText path
  writeText path text := do
    match (← get).writeText path text with
    | .error e => return .error e
    | .ok tree => set tree; return .ok ()
  existsAt path := return (← get).existsAt path

theorem writeText_tree_ok {path text : String} {tree updated : FileTree}
    (h : tree.writeText path text = .ok updated) :
    (writeText path text : StateM FileTree _) tree = (.ok (), updated) := by
  simp only [writeText, bind, StateT.bind, get, getThe, MonadStateOf.get, StateT.get, pure]
  rw [h]
  rfl

theorem writeText_tree_error {path text : String} {tree : FileTree} {e : WriteError}
    (h : tree.writeText path text = .error e) :
    (writeText path text : StateM FileTree _) tree = (.error e, tree) := by
  simp only [writeText, bind, StateT.bind, get, getThe, MonadStateOf.get, StateT.get, pure]
  rw [h]
  rfl

end FileAccess

-- States that show a file tree. It is what can be read from them, and reading leaves them as they are.
class ShowsTree (σ : Type) [FileAccess (StateM σ)] where
  shown : σ → FileTree
  readText_shown {path : String} {s : σ} :
    (readText path : StateM σ _) s = ((shown s).readText path, s)
  existsAt_shown {path : String} {s : σ} :
    (existsAt path : StateM σ _) s = ((shown s).existsAt path, s)

export ShowsTree (shown)

instance : ShowsTree FileTree where
  shown tree     := tree
  readText_shown := rfl
  existsAt_shown := rfl

-- The path of a file and what reading it gave.
abbrev Source := String × Except FileError String

def readSource {m : Type → Type} [Monad m] [FileAccess m] (path : String) : m Source :=
  return (path, ← readText path)

def FileTree.source (tree : FileTree) (path : String) : Source :=
  (path, tree.readText path)

section
variable {σ : Type} [FileAccess (StateM σ)] [ShowsTree σ] {s : σ}

theorem readSource_shown {path : String} :
    (readSource path : StateM σ _) s = ((shown s).source path, s) := by
  simp only [readSource, bind, StateT.bind, ShowsTree.readText_shown]
  rfl

-- Reading changes nothing, so all files are read from the same tree.
theorem mapM_readSource {paths : List String} :
    (paths.mapM readSource : StateM σ _) s = (paths.map (shown s).source, s) := by
  induction paths with
  | nil => rfl
  | cons path paths ih =>
    simp only [List.mapM_cons, bind, StateT.bind, readSource_shown, ih]
    rfl

end

end BuildConfig
