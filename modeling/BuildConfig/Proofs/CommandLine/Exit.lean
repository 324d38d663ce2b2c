import BuildConfig.Proofs.CommandLine.Execution
import BuildConfig.Proofs.Run.Artifacts
import BuildConfig.Proofs.Run.Outcome
import BuildConfig.Proofs.Settings.Template

namespace BuildConfig

section
variable {v : Volume} {naming : Naming} {r : Registry} {artifacts : List Artifact}

theorem Artifact.generate_volume {a : Artifact} :
    ((a.generate naming r : StateM Volume _) v).2 = (v.writeText a.path (a.text naming r)).2 := by
  have ⟨result, after, hw⟩ : ∃ result after,
      v.writeText a.path (a.kind.render naming r).value = (result, after) := ⟨_, _, rfl⟩
  simp only [generate, text, bind, StateT.bind, Volume.writeText_volume, hw]
  cases result with
  | ok      => rfl
  | error e => cases e <;> rfl

-- All that generating artifacts does is to write to their paths.
theorem Artifact.touches_mapM_generate :
    v.Touches (artifacts.map (·.path))
      ((artifacts.mapM (·.generate naming r) : StateM Volume _) v).2 := by
  induction artifacts generalizing v with
  | nil => exact .refl v
  | cons a artifacts ih =>
    have ha : v.Touches [a.path] ((a.generate naming r : StateM Volume _) v).2 :=
      generate_volume ▸ .writeText
    rw [mapM_generate_cons]
    exact ha.trans ih

end

namespace Volume

-- Where the working directory has its template.
def templateLocation (v : Volume) : Location :=
  v.tree.workingDirectory ++ [Settings.fileName]

-- Whether a template can be begun in the working directory.
structure OpensTemplate (v : Volume) : Prop where
  entered : v.tree.node? v.tree.workingDirectory = some .directory
  free    : v.tree.node? v.templateLocation = none
  granted : v.refusal? v.tree v.templateLocation = none

-- Whether a template can be created in the working directory.
def TakesTemplate (v : Volume) : Prop :=
  v.OpensTemplate ∧ v.cut? v.templateLocation Settings.template = none

theorem vacant_fileName_iff {v : Volume} {l : Location} :
    v.Vacant Settings.fileName l ↔ l = v.templateLocation ∧ v.OpensTemplate := by
  rw [vacant_iff, Settings.vacant_fileName_iff]
  constructor
  case mp =>
    rintro ⟨⟨hd, rfl, hn⟩, hr⟩
    exact ⟨rfl, hd, hn, hr⟩
  case mpr =>
    rintro ⟨rfl, hd, hn, hr⟩
    exact ⟨⟨hd, rfl, hn⟩, hr⟩

end Volume

namespace CommandLine

-- The ways to go wrong for good.
inductive Fails (v : Volume) (arguments : List String) : Prop
  | usage {e} (h : Invocation.ofArguments arguments = .error (.usage e))
  | template {i} (h : Invocation.ofArguments arguments = .ok i) (hv : .version ∉ i.switches)
    (hi : .init ∈ i.switches) (ht : ¬v.TakesTemplate)
  | run {i e} (h : Invocation.ofArguments arguments = .ok i) (hv : .version ∉ i.switches)
    (hi : .init ∉ i.switches)
    (hr : ((run (i.options v.tree) : StateM Volume _) v).1.value = .error e)

-- The command begins a template for which there is not room enough.
structure CutsShort (v : Volume) (arguments : List String) (shortage : Shortage) : Prop where
  asked : ∃ i, Invocation.ofArguments arguments = .ok i ∧ .version ∉ i.switches ∧ .init ∈ i.switches
  opens : v.OpensTemplate
  short : v.cut? v.templateLocation Settings.template = some shortage

-- The locations at which a command may leave a file.
inductive Fills (v : Volume) (arguments : List String) : Location → Prop
  | template {i} (h : Invocation.ofArguments arguments = .ok i) (hi : .init ∈ i.switches) :
    Fills v arguments v.templateLocation
  | artifact {i a l} (h : Invocation.ofArguments arguments = .ok i) (hi : .init ∉ i.switches)
    (ha : a ∈ (i.options v.tree).artifacts) (ht : v.tree.target a.path = .ok l) : Fills v arguments l

variable {v : Volume} {env : Environment} {arguments : List String} {palette : Palette} {i : Invocation}

-- How creating a template exits, and what it leaves.
inductive Creates (v : Volume) : UInt32 → Volume → Prop
  | whole (h : v.TakesTemplate) : Creates v 0 (v.put v.templateLocation Settings.template.toUTF8)
  | part {s} (h : v.OpensTemplate) (hc : v.cut? v.templateLocation Settings.template = some s) :
    Creates v 1 (v.put v.templateLocation (s.part Settings.template))
  | nothing (h : ¬v.OpensTemplate) : Creates v 1 v

theorem creates_createSettings :
    let s := (createSettings palette : StateM Volume _) v
    Creates v s.1.exitCode s.2 := by
  have ⟨hc, hs⟩ := @createSettings_writes palette Volume _ v
  have he := @Settings.writeTemplate_ends v none
  intro s
  rw [hc, hs]
  generalize (Settings.writeTemplate none : StateM Volume _) v = written at he
  cases he with
  | created h hc =>
    obtain ⟨rfl, ho⟩ := Volume.vacant_fileName_iff.mp h
    exact .whole ⟨ho, hc⟩
  | begun h hc =>
    obtain ⟨rfl, ho⟩ := Volume.vacant_fileName_iff.mp h
    exact .part ho hc
  | spared he =>
    refine .nothing fun ho => ?_
    have hv : v.Vacant (Settings.templatePath none) _ := Volume.vacant_fileName_iff.mpr ⟨rfl, ho⟩
    rw [Volume.existsAt_of_vacant hv] at he
    contradiction
  | refused _ hn => exact .nothing fun ho => hn _ (Volume.vacant_fileName_iff.mpr ⟨rfl, ho⟩)

namespace Creates
variable {exitCode : UInt32} {after : Volume} (h : Creates v exitCode after)
include h

theorem success (ht : v.TakesTemplate) : exitCode = 0 := by
  cases h with
  | whole      => rfl
  | part _ hc  => cases hc.symm.trans ht.right
  | nothing hn => exact absurd ht.left hn

theorem failure (ht : ¬v.TakesTemplate) :
    exitCode = 1 ∧
      (after = v ∨ v.OpensTemplate ∧ ∃ s, v.cut? v.templateLocation Settings.template = some s) := by
  cases h with
  | whole hw   => exact absurd hw ht
  | part ho hc => exact ⟨rfl, .inr ⟨ho, _, hc⟩⟩
  | nothing    => exact ⟨rfl, .inl rfl⟩

theorem short {shortage : Shortage} (ho : v.OpensTemplate)
    (hs : v.cut? v.templateLocation Settings.template = some shortage) :
    after = v.put v.templateLocation (shortage.part Settings.template) := by
  cases h with
  | whole ht   => cases ht.right.symm.trans hs
  | part _ hc  => cases hc.symm.trans hs; rfl
  | nothing hn => exact absurd ho hn

theorem touches :
    ∃ paths, v.Touches paths after ∧
      ∀ path ∈ paths, ∀ l, v.tree.target path = .ok l → l = v.templateLocation := by
  have ho (ho : v.OpensTemplate) (content : ByteArray) :
      ∃ paths, v.Touches paths (v.put v.templateLocation content) ∧
        ∀ path ∈ paths, ∀ l, v.tree.target path = .ok l → l = v.templateLocation := by
    have ⟨hv, hn⟩ := Volume.vacant_fileName_iff.mpr ⟨rfl, ho⟩
    refine ⟨[Settings.fileName], .put hv (by rw [hn]; nofun), List.forall_mem_singleton.mpr fun l hl => ?_⟩
    have ht := (Volume.opened_eq_ok_iff.mp hv).left
    exact Except.ok.inj (hl.symm.trans ht)
  cases h with
  | whole h   => exact ho h.left _
  | part h hc => exact ho h _
  | nothing h => exact ⟨[], .refl v, nofun⟩

end Creates

theorem generate_volume :
    let ran := (run (i.options v.tree) : StateM Volume _) v
    let t := (generate palette i : StateM Volume _) v
    t.1.exitCode = (if ran.1.value.toBool then 0 else 1) ∧ t.2 = ran.2 :=
  generate_shown

-- Whatever a command does, it writes to nothing but the paths that it has to fill.
theorem touches_execute :
    ∃ paths, v.Touches paths ((execute env arguments : StateM Volume _) v).2 ∧
      ∀ path ∈ paths, ∀ l, v.tree.target path = .ok l → Fills v arguments l := by
  have hn : v.Touches [] v := .refl v
  cases h : Invocation.ofArguments arguments with
  | error refusal =>
    refine ⟨[], ?_, nofun⟩
    cases refusal with
    | help =>
      obtain ⟨_, he⟩ := execute_of_informs (m := StateM Volume) (.help h)
      rwa [he]
    | usage e => rwa [execute_of_usage h]
  | ok i =>
    by_cases hv : .version ∈ i.switches
    case pos =>
      obtain ⟨_, he⟩ := execute_of_informs (m := StateM Volume) (.version h hv)
      exact ⟨[], by rwa [he], nofun⟩
    case neg =>
      by_cases hi : .init ∈ i.switches
      case pos =>
        rw [execute_of_init h hv hi]
        obtain ⟨paths, ht, hl⟩ := (@creates_createSettings v (i.palette env)).touches
        exact ⟨paths, ht, fun path hp l ht => hl path hp l ht ▸ .template h hi⟩
      case neg =>
        rw [execute_of_generate h hv hi, generate_volume.right]
        cases hr : ((run (i.options v.tree) : StateM Volume _) v).1.value with
        | error e => exact ⟨[], by rwa [state_of_run_error hr], nofun⟩
        | ok report =>
          obtain ⟨r, hs⟩ := state_of_run_ok hr
          refine ⟨(i.options v.tree).artifacts.map (·.path), hs ▸ Artifact.touches_mapM_generate, ?_⟩
          exact List.forall_mem_map.mpr fun a ha l ht => .artifact h hi ha ht

theorem execute_of_fails (h : Fails v arguments) :
    let s := (execute env arguments : StateM Volume _) v
    s.1.exitCode = 1 ∧ (s.2 = v ∨ ∃ shortage, CutsShort v arguments shortage) := by
  cases h with
  | usage h =>
    rw [execute_of_usage h]
    exact ⟨rfl, .inl rfl⟩
  | @template i h hv hi ht =>
    rw [execute_of_init h hv hi]
    have ⟨hc, hs⟩ := (@creates_createSettings v (i.palette env)).failure ht
    exact ⟨hc, hs.imp_right fun ⟨ho, s, hs⟩ => ⟨s, ⟨i, h, hv, hi⟩, ho, hs⟩⟩
  | @run i e h hv hi hr =>
    rw [execute_of_generate h hv hi]
    have ⟨hc, hs⟩ := @generate_volume v (i.palette env) i
    rw [hr] at hc
    exact ⟨hc, .inl (hs.trans (state_of_run_error hr))⟩

theorem exitCode_of_not_fails (h : ¬Fails v arguments) :
    ((execute env arguments : StateM Volume _) v).1.exitCode = 0 := by
  cases ha : Invocation.ofArguments arguments with
  | error refusal =>
    cases refusal with
    | help    => rw [execute, ha]; rfl
    | usage e => exact absurd (.usage ha) h
  | ok i =>
    by_cases hv : .version ∈ i.switches
    case pos =>
      rw [execute_of_invocation ha, Invocation.execute, if_pos hv]
      rfl
    case neg =>
      by_cases hi : .init ∈ i.switches
      case pos =>
        have ht : v.TakesTemplate := not_not.mp fun ht => h (.template ha hv hi ht)
        rw [execute_of_init ha hv hi]
        exact creates_createSettings.success ht
      case neg =>
        rw [execute_of_generate ha hv hi, generate_volume.left]
        cases hr : ((run (i.options v.tree) : StateM Volume _) v).1.value with
        | error e => exact absurd (.run ha hv hi hr) h
        | ok      => rfl

theorem CutsShort.fails {shortage : Shortage} (h : CutsShort v arguments shortage) :
    Fails v arguments := by
  obtain ⟨i, ha, hv, hi⟩ := h.asked
  refine .template ha hv hi fun ht => ?_
  cases h.short.symm.trans ht.right

theorem execute_of_cutsShort {shortage : Shortage} (h : CutsShort v arguments shortage) :
    ((execute env arguments : StateM Volume _) v).2 =
      v.put v.templateLocation (shortage.part Settings.template) := by
  obtain ⟨i, ha, hv, hi⟩ := h.asked
  rw [execute_of_init ha hv hi]
  exact creates_createSettings.short h.opens h.short

-- How a command ends. It fails for three reasons only, and then it leaves all files alone, as it does when it
-- was asked for nothing but information. The one exception is a template for which there turns out to be too
-- little room: the new file stays, with as much as went into it. Otherwise files come or change nowhere
-- but at the place of the template or at those of the artifacts.
theorem execute_ends (env : Environment) (arguments : List String) (v : Volume) :
    let s := (execute env arguments : StateM Volume _) v
    (s.1.exitCode = 1 ↔ Fails v arguments) ∧
      (s.1.exitCode = 0 ↔ ¬Fails v arguments) ∧
      (Informs arguments → s.2 = v) ∧
      (s.1.exitCode = 1 → s.2 = v ∨ ∃ shortage, CutsShort v arguments shortage) ∧
      (∀ shortage, CutsShort v arguments shortage →
        s.2 = v.put v.templateLocation (shortage.part Settings.template)) ∧
      ∀ l, s.2.tree.node? l ≠ v.tree.node? l → l ∈ v.tree.changes s.2.tree ∧ Fills v arguments l := by
  intro s
  have hf (h : Fails v arguments) :
      s.1.exitCode = 1 ∧ (s.2 = v ∨ ∃ shortage, CutsShort v arguments shortage) :=
    execute_of_fails h
  have hn (h : ¬Fails v arguments) : s.1.exitCode = 0 := exitCode_of_not_fails h
  obtain ⟨paths, ht, hl⟩ : ∃ paths, v.Touches paths s.2 ∧ _ := touches_execute
  have hc : s.1.exitCode = 1 ↔ Fails v arguments := by
    refine ⟨fun hc => not_not.mp fun h => ?_, fun h => (hf h).left⟩
    rw [hn h] at hc
    contradiction
  refine ⟨hc, ?success, fun h => ?informed, fun h => (hf (hc.mp h)).right,
    fun _ => execute_of_cutsShort, fun l hd => ?changed⟩
  case success =>
    refine ⟨fun h0 h => ?_, hn⟩
    rw [(hf h).left] at h0
    contradiction
  case informed =>
    obtain ⟨_, he⟩ := execute_of_informs (m := StateM Volume) h
    exact congrArg (fun p : StateM Volume _ => (p v).2) he
  case changed =>
    obtain ⟨path, hp, hp'⟩ := ht.exists_target hd
    exact ⟨ht.mem_changes hd, hl path hp l hp'⟩

-- A directory on a medium that is full, but for what it takes to make a file.
def crowded : Volume where
  tree           := { workingDirectory := ["home"], bindings := [(["home"], .directory)] }
  refusal? _ _   := none
  shortage? _ _  := some ⟨0, .noSpaceLeft⟩

-- A command that fails can leave a file behind, and an argument that would be refused does not count once help
-- was asked for.
theorem execute_crowded :
    let s := (execute {} ["--init"] : StateM Volume _) crowded
    (s.1.exitCode = 1 ∧ crowded.tree.changes s.2.tree = [["home", "defcon.toml"]]) ∧
      ((execute {} ["--bogus"] : StateM Volume _) crowded).1.exitCode = 1 ∧
      ((execute {} ["-h", "--bogus"] : StateM Volume _) crowded).1.exitCode = 0 := by
  have hs : CutsShort crowded ["--init"] ⟨0, .noSpaceLeft⟩ := {
    asked := ⟨{ switches := [.init] }, by decide +kernel⟩
    opens := ⟨rfl, rfl, rfl⟩
    short := Volume.cut?_eq_some_iff.mpr ⟨rfl, Settings.template_nonempty⟩ }
  refine ⟨⟨(execute_of_fails hs.fails).left, ?_⟩, by decide +kernel⟩
  rw [execute_of_cutsShort hs]
  rfl

-- A header that cannot be opened is reported and is no reason to fail.
example :
    let arguments := ["-C", "port.def/config.h", "-cgen/../site.conf", "--", "port.def"]
    let s := (execute {} arguments : StateM Volume _) (.unlimited spelledTree)
    s.1.exitCode = 0 ∧ s.1.notices ≠ [] := by
  decide +kernel

end CommandLine
end BuildConfig
