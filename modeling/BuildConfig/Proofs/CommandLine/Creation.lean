import BuildConfig.Proofs.CommandLine.Omission
import BuildConfig.Proofs.Settings.Neutrality

namespace BuildConfig

theorem FileTree.settingsAt_of_readText {tree : FileTree} {path text : String}
    (h : tree.readText path = .ok text) : tree.settingsAt path = Settings.ofContent path text := by
  rw [settingsAt, h]
  rfl

namespace Settings

-- What a new file for a template leaves behind: a content at a location at which nothing was, in the directory
-- that the template is for, and all else as it was before.
structure Created (v : Volume) (directory : Option String) (l : Location) (content : ByteArray)
    (created : Volume) : Prop where
  placed : ∃ here, v.tree.Receives directory here ∧ l = here ++ [fileName]
  vacant : v.tree.node? l = none
  filled : created.tree.node? l = some (.file content)
  others : ∀ l' ≠ l, created.tree.node? l' = v.tree.node? l'
  stayed : created.tree.workingDirectory = v.tree.workingDirectory
  medium : created = { v with tree := created.tree }

variable {v created : Volume} {directory : Option String} {l : Location} {content : ByteArray} {path : String}

theorem created_put (h : v.Vacant (templatePath directory) l) :
    Created v directory l content (v.put l content) := by
  have hv := (Volume.vacant_iff.mp h).left
  obtain ⟨here, hr, rfl, hn⟩ := FileTree.vacant_templatePath_iff.mp hv
  exact {
    placed := ⟨here, hr, rfl⟩
    vacant := hn
    filled := FileTree.node?_put_self (FileTree.ne_nil_of_target hv.left)
    others := fun _ => FileTree.node?_put_of_ne
    stayed := rfl
    medium := rfl }

namespace Created
variable (h : Created v directory l content created)
include h

theorem sameSurroundings : v.tree.SameSurroundings created.tree := by
  refine .of_others h.stayed.symm h.others ?directory ?fullDevice
  case directory  => simp [h.vacant, h.filled]
  case fullDevice => simp [h.vacant, h.filled]

-- The path that was not there before now leads to the file.
theorem resolve_templatePath : created.tree.resolve (templatePath directory) = .ok l := by
  obtain ⟨here, hr, hl⟩ := h.placed
  have hv := FileTree.vacant_templatePath_iff.mpr ⟨here, hr, hl, h.vacant⟩
  rw [FileTree.resolve_of_target (h.sameSurroundings.target hv.left), h.filled]
  rfl

end Created

theorem writeTemplate_of_resolve (h : v.tree.resolve (templatePath directory) = .ok l) :
    (writeTemplate directory : StateM Volume _) v = (.error .alreadyExists, v) :=
  writeTemplate_of_existing (FileTree.existsAt_iff.mpr ⟨l, h⟩)

theorem settingsAt_of_created (h : Created v directory l template.toUTF8 created)
    (hp : created.tree.resolve path = .ok l) : created.tree.settingsAt path = .ok {} := by
  rw [FileTree.settingsAt_of_readText (FileTree.readText_of_file hp h.filled)]
  exact ofContent_template

end Settings

namespace CommandLine
open Settings
variable {v : Volume} {env : Environment} {arguments : List String} {path : String} {i : Invocation}

theorem generate_volume_of_empty {palette : Palette} (hs : i.settings = some path)
    (he : v.tree.settingsAt path = .ok {}) :
    (generate palette i : StateM Volume _) v =
      (generate palette i.withoutSettings : StateM Volume _) v := by
  have he : (shown v).settingsAt path = .ok {} := he
  have hl : (loadSettings i.settings : StateM Volume _) v =
      (loadSettings i.withoutSettings.settings : StateM Volume _) v := by
    simp only [hs, loadSettings, bind, StateT.bind, load_shown, he]
    rfl
  simp only [generate, bind, StateT.bind, hl]
  rfl

-- A command with settings that set nothing does what it does without them.
theorem execute_of_empty (h : Invocation.ofArguments arguments = .ok i)
    (hs : i.settings = some path) (he : v.tree.settingsAt path = .ok {}) :
    (execute env arguments : StateM Volume _) v =
      (execute env (withoutSettings arguments) : StateM Volume _) v := by
  have hw : Invocation.ofArguments (withoutSettings arguments) = .ok i.withoutSettings :=
    Invocation.ofArguments_withoutSettings h
  by_cases hv : .version ∈ i.switches
  case pos =>
    have hv' : .version ∈ i.withoutSettings.switches := hv
    rw [execute_of_invocation h, execute_of_invocation hw, Invocation.execute, Invocation.execute,
      if_pos hv, if_pos hv']
  case neg =>
    by_cases hi : .init ∈ i.switches
    case pos =>
      rw [execute_of_init h hv hi, execute_of_init hw hv hi]
      rfl
    case neg =>
      rw [execute_of_generate h hv hi, execute_of_generate hw hv hi]
      exact generate_volume_of_empty hs he

-- A settings file that leaves every choice open. It can be loaded, what it says goes with every request as
-- nothing would, and every command that names it can do without it.
structure Neutral (v : Volume) (path : String) : Prop where
  loaded : ∃ s, (Settings.load path : StateM Volume _) v = (.ok s, v) ∧
    ∀ r : Request, r.complete s = r.alone
  idle   : ∀ env arguments i, Invocation.ofArguments arguments = .ok i → i.settings = some path →
    (execute env arguments : StateM Volume _) v =
      (execute env (withoutSettings arguments) : StateM Volume _) v

theorem neutral_of_settingsAt (he : v.tree.settingsAt path = .ok {}) : Neutral v path where
  loaded := by
    have he : (shown v).settingsAt path = .ok {} := he
    exact ⟨{}, by rw [load_shown, he], fun _ => Request.complete_empty⟩
  idle _ _ _ hi hs := execute_of_empty hi hs he

-- A template is never written over anything: where something stands already, and where no file can be opened,
-- all stays as it is. A new template is found by every path to it, by the next attempt to create it no less
-- than by a command that takes it for its settings. A template for which there turns out to be too little room
-- leaves its new file behind, and that file is found by the next attempt as well.
theorem writeTemplate_creates_or_spares (directory : Option String) (v : Volume) :
    let s := (writeTemplate directory : StateM Volume _) v
    (v.tree.existsAt (templatePath directory) ↔
      ∃ here, v.tree.Receives directory here ∧ (v.tree.node? (here ++ [fileName])).isSome) ∧
      (s.1 = .error .alreadyExists ↔ v.tree.existsAt (templatePath directory)) ∧
      ((∃ path, s.1 = .ok path) ↔
        ∃ here, v.Accepts directory here ∧ v.cut? (here ++ [fileName]) template = none) ∧
      (∀ e, s.1 = .error e →
        s.2 = v ∨
          ∃ here l shortage, v.Accepts directory here ∧ l = here ++ [fileName] ∧
            v.cut? l template = some shortage ∧ e = .unwritten shortage.cause ∧
            Created v directory l (shortage.part template) s.2 ∧
            ∀ other, s.2.tree.resolve (templatePath other) = .ok l →
              (writeTemplate other : StateM Volume _) s.2 = (.error .alreadyExists, s.2)) ∧
      ∀ path, s.1 = .ok path →
        path = templatePath directory ∧
          ∃ l, Created v directory l template.toUTF8 s.2 ∧ s.2.tree.resolve path = .ok l ∧
            (∀ other, s.2.tree.resolve (templatePath other) = .ok l →
              (writeTemplate other : StateM Volume _) s.2 = (.error .alreadyExists, s.2)) ∧
            ∀ other, s.2.tree.resolve other = .ok l → Neutral s.2 other := by
  intro s
  have hs : TemplateEnds v directory s := writeTemplate_ends
  refine ⟨FileTree.existsAt_templatePath_iff, hs.alreadyExists_iff, hs.exists_ok_iff, ?_⟩
  generalize s = t at hs ⊢
  cases hs with
  | @created l h hc =>
    refine ⟨nofun, fun path hp => ?_⟩
    cases hp
    have hf : Created v directory l template.toUTF8 (v.put l template.toUTF8) := created_put h
    refine ⟨rfl, l, hf, hf.resolve_templatePath, fun _ => writeTemplate_of_resolve, fun other ho => ?_⟩
    exact neutral_of_settingsAt (settingsAt_of_created hf ho)
  | @begun l shortage h hc =>
    obtain ⟨here, ha, hl⟩ := Volume.vacant_templatePath_iff.mp h
    refine ⟨fun e he => ?_, nofun⟩
    cases he
    exact .inr ⟨here, l, shortage, ha, hl, hc, rfl, created_put h, fun _ => writeTemplate_of_resolve⟩
  | spared  => exact ⟨fun _ _ => .inl rfl, nofun⟩
  | refused => exact ⟨fun _ _ => .inl rfl, nofun⟩

-- The directory is named by a detour, and the second attempt takes another one.
def detourTree : FileTree where
  workingDirectory := ["home"]
  bindings := [(["home"], .directory), (["home", "cfg"], .directory)]

theorem writeTemplate_creates_or_spares_detourTree :
    let v := Volume.unlimited detourTree
    let s := (writeTemplate (some "cfg/../cfg/") : StateM Volume _) v
    s.1 = .ok "cfg/../cfg/defcon.toml" ∧
      Created v (some "cfg/../cfg/") ["home", "cfg", "defcon.toml"] template.toUTF8 s.2 ∧
      (writeTemplate (some "/home/./cfg") : StateM Volume _) s.2 = (.error .alreadyExists, s.2) ∧
      Neutral s.2 "cfg/defcon.toml" := by
  intro v s
  have hr : v.Accepts (some "cfg/../cfg/") ["home", "cfg"] := {
    received := {
      checked := by decide +kernel
      named   := by decide +kernel
      unnamed := by decide +kernel
      entered := rfl }
    free     := rfl
    granted  := rfl }
  have ⟨_, _, hw, _, ho⟩ := writeTemplate_creates_or_spares (some "cfg/../cfg/") v
  obtain ⟨path, hp⟩ := hw.mpr ⟨_, hr, rfl⟩
  obtain ⟨rfl, l, hc, hl, ht, hn⟩ := ho path hp
  have hl' : s.2.tree.resolve (templatePath (some "cfg/../cfg/")) = .ok ["home", "cfg", "defcon.toml"] := by
    decide +kernel
  obtain rfl : l = ["home", "cfg", "defcon.toml"] := Except.ok.inj (hl.symm.trans hl')
  exact ⟨hp, hc, ht _ (by decide +kernel), hn _ (by decide +kernel)⟩

-- A directory spelled with segments that stay where they are.
def winding : Nat → String
  | 0     => ""
  | n + 1 => "./" ++ winding n

theorem toList_winding {n : Nat} : (winding n).toList = (List.replicate n ['.', '/']).flatten := by
  induction n with
  | zero => rfl
  | succ n ih =>
    rw [winding, String.toList_append, ih]
    rfl

theorem segments_winding {n : Nat} :
    ∀ segment ∈ Path.segments (winding n), segment = "" ∨ segment = "." := by
  induction n with
  | zero => exact List.forall_mem_singleton.mpr (.inl rfl)
  | succ n ih =>
    have hs : Path.segments (winding (n + 1)) = "." :: Path.segments (winding n) := by
      rw [Path.segments, winding, String.toList_append]
      exact congrArg (List.map String.ofList) (List.splitOn_append_cons_self ['.'] (winding n).toList)
    rw [hs]
    exact List.forall_mem_cons.mpr ⟨.inr rfl, ih⟩

theorem utf8ByteSize_winding {n : Nat} : (winding n).utf8ByteSize = 2 * n := by
  induction n with
  | zero => rfl
  | succ n ih =>
    have hs : "./".utf8ByteSize = 2 := by decide
    rw [winding, String.utf8ByteSize_append, ih, hs]
    omega

theorem getLast?_winding {n : Nat} : (winding (n + 1)).toList.getLast? = some '/' := by
  rw [toList_winding, List.replicate_succ', List.flatten_append]
  simp

theorem winding_ne_empty {n : Nat} : winding (n + 1) ≠ "" := by
  intro he
  have hl := @getLast?_winding n
  rw [he] at hl
  contradiction

theorem templatePath_winding {n : Nat} :
    templatePath (some (winding (n + 1))) = winding (n + 1) ++ fileName := by
  rw [templatePath, Path.join,
    if_neg (not_or.mpr ⟨FileTree.not_isAbsolute_fileName, winding_ne_empty⟩), if_pos getLast?_winding]

theorem checkPath_winding {n : Nat} (h : FileTree.longestPath ≤ 2 * n) :
    FileTree.checkPath (templatePath (some (winding (n + 1)))) = .error .nameTooLong := by
  rw [templatePath_winding]
  apply FileTree.checkPath_of_long
  · have hf : '\x00' ∉ fileName.toList := by decide +kernel
    rw [String.toList_append, List.mem_append, toList_winding]
    simp [List.mem_flatten, hf]
  · rw [String.utf8ByteSize_append, utf8ByteSize_winding]
    omega

theorem not_isAbsolute_winding {n : Nat} : ¬Path.isAbsolute (winding n) := by
  rw [Path.isAbsolute, toList_winding]
  cases n <;> simp [List.replicate_succ]

-- However long the spelling is, it leads to what is in the working directory.
theorem follow_winding {tree : FileTree} {n : Nat}
    (hd : tree.node? tree.workingDirectory = some .directory)
    (hl : (tree.node? (tree.workingDirectory ++ [fileName])).isSome) :
    tree.follow (templatePath (some (winding (n + 1)))) = .ok (tree.workingDirectory ++ [fileName]) := by
  refine FileTree.follow_templatePath winding_ne_empty ?_ hd hl
  rw [FileTree.follow, FileTree.origin, if_neg not_isAbsolute_winding]
  exact FileTree.walk_idle hd segments_winding

-- A file that cannot be finished is left behind. Under a path that is too long it is not found again.
theorem writeTemplate_crowded :
    let s := (writeTemplate none : StateM Volume _) crowded
    s.1 = .error (.unwritten .noSpaceLeft) ∧
      crowded.tree.changes s.2.tree = [["home", "defcon.toml"]] ∧
      s.2.tree.follow (templatePath (some (winding 2050))) = .ok ["home", "defcon.toml"] ∧
      (writeTemplate (some (winding 2050)) : StateM Volume _) s.2 =
        (.error (.unwritten .nameTooLong), s.2) := by
  have hv : crowded.Vacant (templatePath none) ["home", "defcon.toml"] :=
    Volume.vacant_fileName_iff.mpr ⟨rfl, rfl, rfl, rfl⟩
  have hc : crowded.cut? ["home", "defcon.toml"] template = some ⟨0, .noSpaceLeft⟩ :=
    Volume.cut?_eq_some_iff.mpr ⟨rfl, template_nonempty⟩
  have hl : FileTree.checkPath (templatePath (some (winding 2050))) = .error .nameTooLong :=
    checkPath_winding (n := 2049) (by decide)
  rw [writeTemplate_of_begun hv hc]
  exact ⟨rfl, rfl, follow_winding (n := 2049) rfl rfl, writeTemplate_of_checkPath hl⟩

end CommandLine
end BuildConfig
