import BuildConfig.CommandLine.Execution

namespace BuildConfig
namespace CommandLine

-- Settings that are not asked for or cannot be loaded are empty.
def Invocation.settingsFrom (i : Invocation) (tree : FileTree) : Settings :=
  (i.settings.bind fun path => (tree.settingsAt path).toOption).getD {}

-- The options of a run, from the arguments and the settings.
def Invocation.options (i : Invocation) (tree : FileTree) : Options :=
  i.request.complete (i.settingsFrom tree)

-- The commands that only say something.
inductive Informs (arguments : List String) : Prop
  | help (h : Invocation.ofArguments arguments = .error .help)
  | version {i} (h : Invocation.ofArguments arguments = .ok i) (hv : .version ∈ i.switches)

variable {env : Environment} {arguments : List String} {palette : Palette} {i : Invocation}

section
variable {m : Type → Type} [Monad m] [FileAccess m]

theorem execute_of_usage {e : UsageError} (h : Invocation.ofArguments arguments = .error (.usage e)) :
    (execute env arguments : m _) = pure { exitCode := 1, notices := [.usage e] } := by
  rw [execute, h]

theorem execute_of_invocation (h : Invocation.ofArguments arguments = .ok i) :
    (execute env arguments : m _) = i.execute (i.palette env) := by
  rw [execute, h]

theorem execute_of_init (h : Invocation.ofArguments arguments = .ok i) (hv : .version ∉ i.switches)
    (hi : .init ∈ i.switches) :
    (execute env arguments : m _) = createSettings (i.palette env) := by
  rw [execute_of_invocation h, Invocation.execute, if_neg hv, if_pos hi]

theorem execute_of_generate (h : Invocation.ofArguments arguments = .ok i) (hv : .version ∉ i.switches)
    (hi : .init ∉ i.switches) :
    (execute env arguments : m _) = generate (i.palette env) i := by
  rw [execute_of_invocation h, Invocation.execute, if_neg hv, if_neg hi]

-- Who asks for information gets it whatever the files are.
theorem execute_of_informs (h : Informs arguments) :
    ∃ output, (execute env arguments : m _) = pure { output } := by
  cases h with
  | help h       => exact ⟨helpText, by rw [execute, h]⟩
  | version h hv => exact ⟨versionText, by rw [execute_of_invocation h, Invocation.execute, if_pos hv]⟩

end

section
variable {σ : Type} [FileAccess (StateM σ)] {s : σ}

-- What becomes of the template decides the exit code.
theorem createSettings_writes :
    let written := (Settings.writeTemplate none : StateM σ _) s
    let t := (createSettings palette : StateM σ _) s
    t.1.exitCode = (if written.1.toBool then 0 else 1) ∧ t.2 = written.2 := by
  have ⟨result, after, hw⟩ : ∃ result after,
      (Settings.writeTemplate none : StateM σ _) s = (result, after) := ⟨_, _, rfl⟩
  simp only [createSettings, bind, StateT.bind, hw]
  cases result <;> exact ⟨rfl, rfl⟩

variable [ShowsTree σ]

theorem loadSettings_shown :
    ∃ warnings, (loadSettings i.settings : StateM σ _) s =
      (⟨i.settingsFrom (shown s), warnings⟩, s) := by
  rw [Invocation.settingsFrom]
  cases i.settings with
  | none => exact ⟨[], rfl⟩
  | some path =>
    simp only [loadSettings, bind, StateT.bind, Settings.load_shown, Option.bind_some]
    cases (shown s).settingsAt path with
    | error e => exact ⟨[.unusableSettings path e], rfl⟩
    | ok _    => exact ⟨[], rfl⟩

-- What becomes of a run decides the exit code, and nothing but the run leaves anything behind.
theorem generate_shown :
    let ran := (run (i.options (shown s)) : StateM σ _) s
    let t := (generate palette i : StateM σ _) s
    t.1.exitCode = (if ran.1.value.toBool then 0 else 1) ∧ t.2 = ran.2 := by
  have ⟨_, hl⟩ := loadSettings_shown (i := i) (s := s)
  have ⟨result, written, hr⟩ : ∃ result written,
      (run (i.options (shown s)) : StateM σ _) s = (result, written) := ⟨_, _, rfl⟩
  rw [Invocation.options] at hr ⊢
  simp only [generate, bind, StateT.bind, hl, hr]
  cases result.value <;> exact ⟨rfl, rfl⟩

end

section
variable {tree : FileTree}

theorem loadSettings_tree :
    ∃ warnings, (loadSettings i.settings : StateM FileTree _) tree =
      (⟨i.settingsFrom tree, warnings⟩, tree) :=
  loadSettings_shown

theorem generate_tree :
    let ran := (run (i.options tree) : StateM FileTree _) tree
    let t := (generate palette i : StateM FileTree _) tree
    t.1.exitCode = (if ran.1.value.toBool then 0 else 1) ∧ t.2 = ran.2 :=
  generate_shown

end

end CommandLine
end BuildConfig
