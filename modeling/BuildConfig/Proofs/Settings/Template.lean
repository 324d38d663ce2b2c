import BuildConfig.Proofs.Files.Directory
import BuildConfig.Proofs.Files.Volume
import BuildConfig.Proofs.Text.Lines
import BuildConfig.Settings.Template

namespace BuildConfig

namespace FileTree

-- Writing to the path makes a new file at a location at which there is nothing yet.
def Vacant (tree : FileTree) (path : String) (l : Location) : Prop :=
  tree.target path = .ok l ∧ tree.node? l = none

variable {tree : FileTree} {path : String} {l : Location}

theorem existsAt_iff : tree.existsAt path ↔ ∃ l, tree.resolve path = .ok l := by
  rw [existsAt]
  cases tree.resolve path <;> simp [Except.toBool]

theorem existsAt_of_vacant (h : tree.Vacant path l) : tree.existsAt path = false := by
  rw [existsAt, resolve_of_target h.left, h.right]
  rfl

section
open Settings
variable {here : Location} {directory : Option String}

-- The template for a directory goes to a directory that is there. No directory, like an empty path, stands
-- for the working directory.
structure Receives (tree : FileTree) (directory : Option String) (here : Location) : Prop where
  checked : checkPath (templatePath directory) = .ok ()
  named   : ∀ base ∈ directory, base ≠ "" → tree.resolve base = .ok here
  unnamed : directory.getD "" = "" → here = tree.workingDirectory
  entered : tree.node? here = some .directory

theorem not_isAbsolute_fileName : ¬Path.isAbsolute fileName := by
  decide +kernel

theorem templatePath_eq_join : templatePath directory = Path.join (directory.getD "") fileName := by
  cases directory with
  | none   => exact Path.join_empty.symm
  | some _ => rfl

theorem segments_templatePath :
    Path.segments (templatePath directory) =
      (Path.stem (directory.getD "")).map String.ofList ++ [fileName] := by
  have hs : fileName.toList.splitOn '/' = [fileName.toList] := by decide +kernel
  rw [Path.segments, templatePath_eq_join, Path.splitOn_join not_isAbsolute_fileName, hs, List.map_append,
    List.map_singleton, String.ofList_toList]

theorem origin_templatePath :
    tree.origin (templatePath directory) = tree.origin (directory.getD "") := by
  rw [origin, templatePath_eq_join, Path.isAbsolute_join not_isAbsolute_fileName, origin]

-- What comes before the name in the template path leads to the directory.
theorem receives_iff :
    tree.Receives directory here ↔
      checkPath (templatePath directory) = .ok () ∧
        tree.walk (tree.origin (templatePath directory))
          ((Path.stem (directory.getD "")).map String.ofList) = .ok here ∧
        tree.node? here = some .directory := by
  rw [origin_templatePath]
  by_cases hb : directory.getD "" = ""
  case pos =>
    have hw : tree.walk (tree.origin "") ((Path.stem "").map String.ofList) =
        .ok tree.workingDirectory :=
      rfl
    rw [hb, hw]
    constructor
    case mp =>
      intro h
      exact ⟨h.checked, congrArg _ (h.unnamed hb).symm, h.entered⟩
    case mpr =>
      rintro ⟨hc, hw, hd⟩
      refine ⟨hc, fun base hm hn => ?_, fun _ => (Except.ok.inj hw).symm, hd⟩
      cases hm
      exact absurd hb hn
  case neg =>
    obtain ⟨base, rfl⟩ : ∃ base, directory = some base := by
      cases directory with
      | none      => exact absurd rfl hb
      | some base => exact ⟨base, rfl⟩
    have hr (hc : checkPath (templatePath (some base)) = .ok ()) :
        tree.resolve base = tree.follow base := by
      rw [resolve_eq, checkPath_of_join hc not_isAbsolute_fileName hb]
      rfl
    constructor
    case mp =>
      intro h
      have hf : tree.follow base = .ok here := hr h.checked ▸ h.named base rfl hb
      exact ⟨h.checked, (walk_stem_iff hb h.entered).mpr hf, h.entered⟩
    case mpr =>
      rintro ⟨hc, hw, hd⟩
      refine ⟨hc, fun base' hm _ => ?_, fun hn => absurd hn hb, hd⟩
      cases hm
      exact (hr hc).trans ((walk_stem_iff hb hd).mp hw)

-- The name of the template is an ordinary one.
theorem fileName_proper :
    ¬(fileName = "" ∨ fileName = ".") ∧ fileName ≠ ".." ∧ ¬fileName.utf8ByteSize > longestName := by
  decide +kernel

theorem step_fileName_eq_ok_iff (hd : tree.node? here = some .directory) :
    tree.step here fileName = .ok l ↔ l = here ++ [fileName] ∧ (tree.node? l).isSome := by
  have ⟨hi, hu, hn⟩ := fileName_proper
  rw [step_of_directory hd, if_neg hi, if_neg hu, if_neg hn]
  constructor
  case mp =>
    intro h
    split at h
    case h_1 hl =>
      cases h
      exact ⟨rfl, by rw [hl]; rfl⟩
    case h_2 => contradiction
  case mpr =>
    rintro ⟨rfl, hl⟩
    obtain ⟨node, hl⟩ := Option.isSome_iff_exists.mp hl
    rw [hl]

-- Whatever the template path leads to, it leads there from the directory.
theorem resolve_templatePath_iff :
    tree.resolve (templatePath directory) = .ok l ↔
      ∃ here, tree.Receives directory here ∧ l = here ++ [fileName] ∧ (tree.node? l).isSome := by
  rw [resolve_eq_ok_iff]
  constructor
  case mp =>
    rintro ⟨here, name, hc, ⟨before, hp, hw⟩, ht⟩
    obtain ⟨rfl, hn⟩ := List.append_inj' (segments_templatePath.symm.trans hp) rfl
    cases hn
    have hd := directory_of_step ht
    exact ⟨here, receives_iff.mpr ⟨hc, hw, hd⟩, (step_fileName_eq_ok_iff hd).mp ht⟩
  case mpr =>
    rintro ⟨here, hr, hl⟩
    have ⟨hc, hw, hd⟩ := receives_iff.mp hr
    exact ⟨here, fileName, hc, ⟨_, segments_templatePath, hw⟩, (step_fileName_eq_ok_iff hd).mpr hl⟩

theorem existsAt_templatePath_iff :
    tree.existsAt (templatePath directory) ↔
      ∃ here, tree.Receives directory here ∧ (tree.node? (here ++ [fileName])).isSome := by
  simp only [existsAt_iff, resolve_templatePath_iff]
  constructor
  case mp =>
    rintro ⟨_, here, hr, rfl, hl⟩
    exact ⟨here, hr, hl⟩
  case mpr =>
    rintro ⟨here, hr, hl⟩
    exact ⟨_, here, hr, rfl, hl⟩

-- A new template can be made in a directory that has nothing of that name.
theorem vacant_templatePath_iff :
    tree.Vacant (templatePath directory) l ↔
      ∃ here, tree.Receives directory here ∧ l = here ++ [fileName] ∧ tree.node? l = none := by
  constructor
  case mp =>
    intro ⟨ht, hl⟩
    obtain ⟨here, name, ho, rfl⟩ := target_eq_ok_iff.mp ht
    have ⟨_, before, hp, hw⟩ := ho.exists_segments
    obtain ⟨rfl, hn⟩ := List.append_inj' (segments_templatePath.symm.trans hp) rfl
    cases hn
    exact ⟨here, receives_iff.mpr ⟨ho.checked, hw, ho.entered⟩, rfl, hl⟩
  case mpr =>
    rintro ⟨here, hr, rfl, hl⟩
    have ⟨hc, hw, hd⟩ := receives_iff.mp hr
    have ⟨hi, hu, hn⟩ := fileName_proper
    have ⟨he, hi⟩ := not_or.mp hi
    refine ⟨target_eq_ok_iff.mpr ⟨here, fileName, ?_, rfl⟩, hl⟩
    exact {
      checked := hc
      leads   := ⟨((Path.stem (directory.getD "")).map String.ofList).reverse,
        by simp [segments_templatePath, he], by rwa [List.reverse_reverse]⟩
      entered := hd
      proper  := by simp [segments_templatePath, he, hi, hu]
      short   := hn
      free    := by rw [hl]; nofun }

theorem follow_templatePath {base : String} (hb : base ≠ "") (hf : tree.follow base = .ok here)
    (hd : tree.node? here = some .directory) (hl : (tree.node? (here ++ [fileName])).isSome) :
    tree.follow (templatePath (some base)) = .ok (here ++ [fileName]) := by
  rw [follow, segments_templatePath, origin_templatePath, walk_append_singleton_eq_ok_iff]
  exact ⟨here, (walk_stem_iff hb hd).mpr hf, (step_fileName_eq_ok_iff hd).mpr ⟨rfl, hl⟩⟩

theorem receives_none_iff :
    tree.Receives none here ↔
      here = tree.workingDirectory ∧ tree.node? tree.workingDirectory = some .directory := by
  constructor
  case mp =>
    intro h
    obtain rfl := h.unnamed rfl
    exact ⟨rfl, h.entered⟩
  case mpr =>
    rintro ⟨rfl, hd⟩
    exact ⟨by decide +kernel, nofun, fun _ => rfl, hd⟩

end
end FileTree

-- The same on a medium, which has to let the new file be opened.
def Volume.Vacant (v : Volume) (path : String) (l : Location) : Prop :=
  v.opened path = .ok l ∧ v.tree.node? l = none

theorem Volume.vacant_iff {v : Volume} {path : String} {l : Location} :
    v.Vacant path l ↔ v.tree.Vacant path l ∧ v.refusal? v.tree l = none := by
  rw [Vacant, opened_eq_ok_iff, FileTree.Vacant, and_right_comm]

theorem Volume.Vacant.unique {v : Volume} {path : String} {l₁ l₂ : Location} (h₁ : v.Vacant path l₁)
    (h₂ : v.Vacant path l₂) : l₁ = l₂ :=
  Except.ok.inj (h₁.left.symm.trans h₂.left)

theorem Volume.existsAt_of_vacant {v : Volume} {path : String} {l : Location} (h : v.Vacant path l) :
    v.tree.existsAt path = false :=
  FileTree.existsAt_of_vacant (vacant_iff.mp h).left

-- A template for a directory can be begun in the directory that is there.
structure Volume.Accepts (v : Volume) (directory : Option String) (here : Location) : Prop where
  received : v.tree.Receives directory here
  free     : v.tree.node? (here ++ [Settings.fileName]) = none
  granted  : v.refusal? v.tree (here ++ [Settings.fileName]) = none

theorem Volume.vacant_templatePath_iff {v : Volume} {directory : Option String} {l : Location} :
    v.Vacant (Settings.templatePath directory) l ↔
      ∃ here, v.Accepts directory here ∧ l = here ++ [Settings.fileName] := by
  rw [vacant_iff, FileTree.vacant_templatePath_iff]
  constructor
  case mp =>
    rintro ⟨⟨here, hr, rfl, hn⟩, hg⟩
    exact ⟨here, ⟨hr, hn, hg⟩, rfl⟩
  case mpr =>
    rintro ⟨here, ha, rfl⟩
    exact ⟨⟨here, ha.received, rfl, ha.free⟩, ha.granted⟩

namespace Settings

-- The working directory takes a template if it is there and has nothing of that name.
theorem vacant_fileName_iff {tree : FileTree} {l : Location} :
    tree.Vacant fileName l ↔
      tree.node? tree.workingDirectory = some .directory ∧
        l = tree.workingDirectory ++ [fileName] ∧ tree.node? l = none := by
  change tree.Vacant (templatePath none) l ↔ _
  simp only [FileTree.vacant_templatePath_iff, FileTree.receives_none_iff]
  constructor
  case mp =>
    rintro ⟨_, ⟨rfl, hd⟩, hl⟩
    exact ⟨hd, hl⟩
  case mpr =>
    rintro ⟨hd, hl⟩
    exact ⟨_, ⟨rfl, hd⟩, hl⟩

theorem template_nonempty : 0 < template.utf8ByteSize := by
  have hn : 0 < "\n".utf8ByteSize := by decide
  rw [template, templateLines, Text.unlines_cons, String.utf8ByteSize_append, String.utf8ByteSize_append]
  omega

variable {v : Volume} {directory : Option String} {l : Location}

theorem writeTemplate_of_existing (h : v.tree.existsAt (templatePath directory) = true) :
    (writeTemplate directory : StateM Volume _) v = (.error .alreadyExists, v) := by
  have h : (shown v).existsAt (templatePath directory) = true := h
  simp only [writeTemplate, bind, StateT.bind, ShowsTree.existsAt_shown, h]
  rfl

-- Where there is nothing, it is left to the medium what becomes of the template.
theorem writeTemplate_of_missing (h : v.tree.existsAt (templatePath directory) = false) :
    (writeTemplate directory : StateM Volume _) v =
      let result := v.writeText (templatePath directory) template
      ((result.1.mapError fun e => .unwritten e.cause).map fun _ => templatePath directory, result.2) := by
  have h : (shown v).existsAt (templatePath directory) = false := h
  obtain ⟨result, after, hw⟩ : ∃ result after,
      v.writeText (templatePath directory) template = (result, after) := ⟨_, _, rfl⟩
  simp only [writeTemplate, bind, StateT.bind, ShowsTree.existsAt_shown, h, Bool.false_eq_true, if_false,
    Volume.writeText_volume, hw]
  cases result <;> rfl

theorem writeTemplate_of_begun {shortage : Shortage} (h : v.Vacant (templatePath directory) l)
    (hc : v.cut? l template = some shortage) :
    (writeTemplate directory : StateM Volume _) v =
      (.error (.unwritten shortage.cause), v.put l (shortage.part template)) := by
  rw [writeTemplate_of_missing (Volume.existsAt_of_vacant h), Volume.writeText, h.left]
  dsimp only
  rw [Volume.fill, h.right]
  dsimp only
  rw [hc]
  rfl

-- What stands at the end of a path is not seen where the path itself is refused.
theorem writeTemplate_of_checkPath {cause : FileError}
    (h : FileTree.checkPath (templatePath directory) = .error cause) :
    (writeTemplate directory : StateM Volume _) v = (.error (.unwritten cause), v) := by
  have hr : v.tree.existsAt (templatePath directory) = false := by
    rw [FileTree.existsAt, FileTree.resolve, h]
    rfl
  have ho : v.opened (templatePath directory) = .error cause := by
    rw [Volume.opened, FileTree.target, h]
    rfl
  rw [writeTemplate_of_missing hr, Volume.writeText, ho]
  rfl

-- The ways for a template to be written or not. It can also be begun and not finished.
inductive TemplateEnds (v : Volume) (directory : Option String) :
    Except TemplateError String × Volume → Prop
  | created {l : Location} (h : v.Vacant (templatePath directory) l) (hc : v.cut? l template = none) :
    TemplateEnds v directory (.ok (templatePath directory), v.put l template.toUTF8)
  | begun {l : Location} {shortage} (h : v.Vacant (templatePath directory) l)
    (hc : v.cut? l template = some shortage) :
    TemplateEnds v directory (.error (.unwritten shortage.cause), v.put l (shortage.part template))
  | spared (he : v.tree.existsAt (templatePath directory)) :
    TemplateEnds v directory (.error .alreadyExists, v)
  | refused {cause} (he : ¬v.tree.existsAt (templatePath directory))
    (hn : ∀ l, ¬v.Vacant (templatePath directory) l) :
    TemplateEnds v directory (.error (.unwritten cause), v)

theorem vacant_of_missing (he : v.tree.existsAt (templatePath directory) = false)
    (h : v.opened (templatePath directory) = .ok l) : v.Vacant (templatePath directory) l := by
  refine ⟨h, ?_⟩
  have ht := (Volume.opened_eq_ok_iff.mp h).left
  rw [FileTree.existsAt, FileTree.resolve_of_target ht] at he
  cases hn : v.tree.node? l with
  | none => rfl
  | some node =>
    rw [hn] at he
    contradiction

theorem writeTemplate_ends :
    TemplateEnds v directory ((writeTemplate directory : StateM Volume _) v) := by
  cases he : v.tree.existsAt (templatePath directory) with
  | true =>
    rw [writeTemplate_of_existing he]
    exact .spared he
  | false =>
    have hw : v.Writes (templatePath directory) template _ := Volume.writes_writeText
    rw [writeTemplate_of_missing he]
    generalize v.writeText (templatePath directory) template = result at hw ⊢
    cases hw with
    | refused h =>
      refine .refused (Bool.eq_false_iff.mp he) fun l hv => ?_
      rw [hv.left] at h
      contradiction
    | device h hd =>
      rw [(vacant_of_missing he h).right] at hd
      contradiction
    | cut h _ hc   => exact .begun (vacant_of_missing he h) hc
    | whole h _ hc => exact .created (vacant_of_missing he h) hc

namespace TemplateEnds
variable {result : Except TemplateError String × Volume} (h : TemplateEnds v directory result)
include h

theorem alreadyExists_iff :
    result.1 = .error .alreadyExists ↔ v.tree.existsAt (templatePath directory) := by
  cases h with
  | created h  => simp [Volume.existsAt_of_vacant h]
  | begun h    => simp [Volume.existsAt_of_vacant h]
  | spared he  => simp [he]
  | refused he => simp [he]

theorem exists_ok_iff :
    (∃ path, result.1 = .ok path) ↔
      ∃ here, v.Accepts directory here ∧ v.cut? (here ++ [fileName]) template = none := by
  have hv (here) (ha : v.Accepts directory here) :
      v.Vacant (templatePath directory) (here ++ [fileName]) :=
    Volume.vacant_templatePath_iff.mpr ⟨here, ha, rfl⟩
  constructor
  case mp =>
    rintro ⟨path, hp⟩
    cases h with
    | created h hc =>
      obtain ⟨here, ha, rfl⟩ := Volume.vacant_templatePath_iff.mp h
      exact ⟨here, ha, hc⟩
    | _ => cases hp
  case mpr =>
    rintro ⟨here, ha, hc⟩
    cases h with
    | created => exact ⟨_, rfl⟩
    | begun h hc' =>
      rw [(hv here ha).unique h, hc'] at hc
      contradiction
    | spared he =>
      rw [Volume.existsAt_of_vacant (hv here ha)] at he
      contradiction
    | refused _ hn => exact absurd (hv here ha) (hn _)

end TemplateEnds

end Settings
end BuildConfig
