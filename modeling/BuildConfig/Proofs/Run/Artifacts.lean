import BuildConfig.Proofs.Files.Writing
import BuildConfig.Run
import Mathlib.Data.List.Perm.Basic

namespace BuildConfig
namespace Artifact

-- The text of an artifact.
def text (naming : Naming) (r : Registry) (a : Artifact) : String :=
  (a.kind.render naming r).value

-- Whether an artifact can be written to a tree.
def succeeds (naming : Naming) (r : Registry) (tree : FileTree) (a : Artifact) : Bool :=
  ((a.generate naming r : StateM FileTree _) tree).1.value

-- The tree after artifacts were generated one after the other.
def generated (naming : Naming) (r : Registry) (tree : FileTree) (artifacts : List Artifact) :
    FileTree :=
  ((artifacts.mapM (·.generate naming r) : StateM FileTree _) tree).2

-- The last artifact whose path can be opened for writing at a location.
def last? (tree : FileTree) (artifacts : List Artifact) (l : Location) : Option Artifact :=
  (artifacts.filter (tree.target ·.path = .ok l)).getLast?

-- Artifacts that are not opened at the same location.
def Apart (tree : FileTree) (a₁ a₂ : Artifact) : Prop :=
  ∀ l, tree.target a₁.path = .ok l → tree.target a₂.path ≠ .ok l

variable {naming : Naming} {r : Registry} {tree tree₁ tree₂ : FileTree} {a : Artifact}
variable {l : Location} {artifacts artifacts₁ artifacts₂ : List Artifact}

theorem apart_iff {a₁ a₂ : Artifact} :
    Apart tree a₁ a₂ ↔
      ∀ l ∈ (tree.target a₁.path).toOption, tree.target a₂.path ≠ .ok l := by
  rw [Apart]
  cases tree.target a₁.path <;> simp [Except.toOption]

instance {a₁ a₂ : Artifact} : Decidable (Apart tree a₁ a₂) :=
  decidable_of_iff _ apart_iff.symm

theorem generate_tree :
    ((a.generate naming r : StateM FileTree _) tree).1.value =
        (tree.writeText a.path (a.text naming r)).toBool ∧
      ((a.generate naming r : StateM FileTree _) tree).2 =
        tree.attempt a.path (a.text naming r) := by
  rw [FileTree.attempt, generate, text]
  simp only [bind, StateT.bind]
  cases h : tree.writeText a.path (a.kind.render naming r).value with
  | ok written =>
    rw [FileAccess.writeText_tree_ok h]
    exact ⟨rfl, rfl⟩
  | error e =>
    rw [FileAccess.writeText_tree_error h]
    cases e <;> exact ⟨rfl, rfl⟩

theorem mapM_generate_cons {σ : Type} [FileAccess (StateM σ)] {s : σ} :
    ((a :: artifacts).mapM (·.generate naming r) : StateM σ _) s =
      let first := (a.generate naming r : StateM σ _) s
      let others := (artifacts.mapM (·.generate naming r) : StateM σ _) first.2
      (first.1 :: others.1, others.2) := by
  rw [List.mapM_cons]
  rfl

theorem generated_eq_foldl :
    generated naming r tree artifacts =
      artifacts.foldl (fun tree a => tree.attempt a.path (a.text naming r)) tree := by
  induction artifacts generalizing tree with
  | nil => rfl
  | cons a artifacts ih =>
    rw [generated, mapM_generate_cons]
    change generated naming r _ artifacts = _
    rw [ih, generate_tree.right, List.foldl_cons]

theorem generated_append_singleton :
    generated naming r tree (artifacts ++ [a]) =
      (generated naming r tree artifacts).attempt a.path (a.text naming r) := by
  rw [generated_eq_foldl, generated_eq_foldl, List.foldl_append]
  rfl

-- Generating artifacts creates and fills regular files only.
theorem sameSurroundings_generated :
    FileTree.SameSurroundings tree (generated naming r tree artifacts) := by
  induction artifacts using List.reverseRecOn with
  | nil => exact .refl tree
  | append_singleton artifacts a ih =>
    rw [generated_append_singleton]
    exact ih.trans FileTree.sameSurroundings_attempt

theorem succeeds_congr (h : FileTree.SameSurroundings tree₁ tree₂) :
    a.succeeds naming r tree₁ = a.succeeds naming r tree₂ := by
  rw [succeeds, succeeds, generate_tree.left, generate_tree.left, h.toBool_writeText]

-- Each artifact fares as it would on the tree before all of them.
theorem outcomes_mapM_generate (h : FileTree.SameSurroundings tree₁ tree₂) :
    ((artifacts.mapM (·.generate naming r) : StateM FileTree _) tree₁).1.map (·.value) =
      artifacts.map (succeeds naming r tree₂) := by
  induction artifacts generalizing tree₁ with
  | nil => rfl
  | cons a artifacts ih =>
    have ha : ((a.generate naming r : StateM FileTree _) tree₁).2.SameSurroundings tree₂ := by
      rw [generate_tree.right]
      exact FileTree.sameSurroundings_attempt.symm.trans h
    rw [mapM_generate_cons, List.map_cons, List.map_cons, ih ha, ← succeeds_congr h]
    rfl

theorem mem_of_last?_eq_some (h : last? tree artifacts l = some a) :
    a ∈ artifacts ∧ tree.target a.path = .ok l := by
  have ⟨ha, ht⟩ := List.mem_filter.mp (List.mem_of_getLast? h)
  exact ⟨ha, of_decide_eq_true ht⟩

theorem last?_append_singleton :
    last? tree (artifacts ++ [a]) l =
      if tree.target a.path = .ok l then some a else last? tree artifacts l := by
  rw [last?, List.filter_append]
  by_cases h : tree.target a.path = .ok l <;> simp [last?, h]

-- At each location stands in the end what the last artifact for it put there.
theorem node?_generated (hd : tree.node? l ≠ some .fullDevice) :
    (generated naming r tree artifacts).node? l =
      (last? tree artifacts l).elim (tree.node? l) fun a =>
        some (.file (a.text naming r).toUTF8) := by
  induction artifacts using List.reverseRecOn with
  | nil => rfl
  | append_singleton artifacts a ih =>
    have hs : tree.SameSurroundings (generated naming r tree artifacts) :=
      sameSurroundings_generated
    rw [generated_append_singleton, last?_append_singleton]
    split
    case isTrue ht =>
      exact FileTree.node?_attempt_of_target (hs.target ht) (mt (hs.fullDevice l).mpr hd)
    case isFalse ht =>
      exact (FileTree.node?_attempt_of_not_target (mt hs.symm.target ht)).trans ih

theorem last?_congr (h : FileTree.SameSurroundings tree₁ tree₂) :
    last? tree₁ artifacts l = last? tree₂ artifacts l := by
  simp only [last?, h.target_iff]

theorem node?_generated_of_fullDevice (hd : tree.node? l = some .fullDevice) :
    (generated naming r tree artifacts).node? l = some .fullDevice :=
  (sameSurroundings_generated.fullDevice l).mp hd

-- Locations at which no artifact is opened stay as they are.
theorem node?_generated_of_not_target (h : ∀ a ∈ artifacts, tree.target a.path ≠ .ok l) :
    (generated naming r tree artifacts).node? l = tree.node? l := by
  by_cases hd : tree.node? l = some .fullDevice
  case pos => rw [node?_generated_of_fullDevice hd, hd]
  case neg =>
    have hn : artifacts.filter (tree.target ·.path = .ok l) = [] := by
      simpa [List.filter_eq_nil_iff] using h
    rw [node?_generated hd, last?, hn]
    rfl

-- Generating the same artifacts once more makes no difference.
theorem node?_generated_generated :
    (generated naming r (generated naming r tree artifacts) artifacts).node? l =
      (generated naming r tree artifacts).node? l := by
  have hs : tree.SameSurroundings (generated naming r tree artifacts) := sameSurroundings_generated
  by_cases hd : tree.node? l = some .fullDevice
  case pos =>
    have hd := @node?_generated_of_fullDevice naming r tree l artifacts hd
    rw [node?_generated_of_fullDevice hd, hd]
  case neg =>
    rw [node?_generated (mt (hs.fullDevice l).mpr hd), ← last?_congr hs]
    cases hl : last? tree artifacts l with
    | none => rfl
    | some a =>
      rw [node?_generated hd, hl]
      rfl

-- Of artifacts that are apart at most one is opened at a location.
theorem length_filter_target_le (h : artifacts.Pairwise (Apart tree)) :
    (artifacts.filter (tree.target ·.path = .ok l)).length ≤ 1 := by
  by_contra hl
  have ht : ∀ a ∈ artifacts.filter (tree.target ·.path = .ok l), tree.target a.path = .ok l := by
    intro a ha
    simpa using (List.mem_filter.mp ha).right
  have hf := h.filter (tree.target ·.path = .ok l)
  have hn := List.pairwise_iff_getElem.mp hf 0 1 (by omega) (by omega) (by omega)
  exact hn l (ht _ (List.getElem_mem _)) (ht _ (List.getElem_mem _))

theorem last?_perm (h : artifacts₁.Perm artifacts₂) (ha : artifacts₂.Pairwise (Apart tree)) :
    last? tree artifacts₁ l = last? tree artifacts₂ l := by
  have hf := h.filter (tree.target ·.path = .ok l)
  rw [last?, last?]
  rcases Nat.le_one_iff_eq_zero_or_eq_one.mp (length_filter_target_le ha) with hl | hl
  case inl =>
    have hn := List.eq_nil_of_length_eq_zero hl
    rw [hn] at hf
    rw [hf.eq_nil, hn]
  case inr =>
    have ⟨a, hs⟩ := List.length_eq_one_iff.mp hl
    rw [hs] at hf
    rw [List.perm_singleton.mp hf, hs]

end Artifact

section
variable {o : Options} {r : Registry} {resolution : Resolution} {tree : FileTree} {report : Report}

theorem generateAll_tree :
    ((generateAll o r resolution : StateM FileTree _) tree).1.value = {
        definitions := r.definitions.length
        resolution
        written := o.artifacts.countP (·.succeeds o.naming r tree)
        failed := o.artifacts.countP (!·.succeeds o.naming r tree) } ∧
      ((generateAll o r resolution : StateM FileTree _) tree).2 =
        Artifact.generated o.naming r tree o.artifacts := by
  have ho : ((o.artifacts.mapM (·.generate o.naming r) : StateM FileTree _) tree).1.map (·.value) =
      o.artifacts.map (·.succeeds o.naming r tree) :=
    Artifact.outcomes_mapM_generate (.refl tree)
  have hc (p : Bool → Bool) := congrArg (List.countP p) ho
  simp only [List.countP_map] at hc
  refine ⟨?_, rfl⟩
  change Report.mk _ _ _ _ = _
  rw [Report.mk.injEq]
  exact ⟨rfl, rfl, hc id, hc (!·)⟩

-- A run that completes has configured a registry.
theorem configured_of_run_ok (h : ((run o : StateM FileTree _) tree).1.value = .ok report) :
    o.definitions ≠ [] ∧ ∃ r resolution, (configureFrom tree o).value = .ok (r, resolution) := by
  by_cases hd : o.definitions = []
  case pos =>
    rw [run_tree_nil hd] at h
    contradiction
  case neg =>
    cases hc : (configureFrom tree o).value with
    | error e =>
      rw [run_tree_of_error hd hc] at h
      contradiction
    | ok configured => exact ⟨hd, configured.1, configured.2, rfl⟩

-- From a registry that is configured a run generates all artifacts.
theorem run_tree_of_configured (hd : o.definitions ≠ [])
    (hc : (configureFrom tree o).value = .ok (r, resolution)) :
    ((run o : StateM FileTree _) tree).1.value =
        .ok ((generateAll o r resolution : StateM FileTree _) tree).1.value ∧
      ((run o : StateM FileTree _) tree).2 = Artifact.generated o.naming r tree o.artifacts := by
  rw [run_tree_of_ok hd hc]
  exact ⟨rfl, rfl⟩

end

-- What a run leaves behind of the artifacts that it was asked for.
structure Generated (tree : FileTree) (o : Options) (r : Registry) (report : Report)
    (written : FileTree) : Prop where
  file    : ∀ l, tree.node? l ≠ some .fullDevice →
    written.node? l = (Artifact.last? tree o.artifacts l).elim (tree.node? l) fun a =>
      some (.file (a.text o.naming r).toUTF8)
  device  : ∀ l, tree.node? l = some .fullDevice → written.node? l = some .fullDevice
  all     : report.written + report.failed = o.artifacts.length
  written : report.written = o.artifacts.countP (·.succeeds o.naming r tree)
  failed  : report.failed = o.artifacts.countP (!·.succeeds o.naming r tree)
  alone   : ∀ before a after, o.artifacts = before ++ a :: after →
    a.succeeds o.naming r (Artifact.generated o.naming r tree before) = a.succeeds o.naming r tree

section
variable {o : Options} {r : Registry} {resolution : Resolution} {tree : FileTree}
variable {artifacts : List Artifact}

theorem generated_generateAll :
    Generated tree o r ((generateAll o r resolution : StateM FileTree _) tree).1.value
      (Artifact.generated o.naming r tree o.artifacts) where
  file l hd    := Artifact.node?_generated hd
  device l hd  := (Artifact.sameSurroundings_generated.fullDevice l).mp hd
  all          := by
    rw [generateAll_tree.left,
      List.length_eq_countP_add_countP fun a : Artifact => a.succeeds o.naming r tree]
    simp
  written      := by rw [generateAll_tree.left]
  failed       := by rw [generateAll_tree.left]
  alone _ _ _ _ := Artifact.succeeds_congr Artifact.sameSurroundings_generated.symm

-- Artifacts that are apart can be generated in any order.
theorem generateAll_perm (h : artifacts.Perm o.artifacts)
    (ha : o.artifacts.Pairwise (Artifact.Apart tree)) :
    ((generateAll { o with artifacts } r resolution : StateM FileTree _) tree).1.value =
        ((generateAll o r resolution : StateM FileTree _) tree).1.value ∧
      ∀ l, (Artifact.generated o.naming r tree artifacts).node? l =
        (Artifact.generated o.naming r tree o.artifacts).node? l := by
  constructor
  case left =>
    rw [generateAll_tree.left, generateAll_tree.left, Report.mk.injEq]
    exact ⟨rfl, rfl, h.countP_eq _, h.countP_eq _⟩
  case right =>
    intro l
    by_cases hd : tree.node? l = some .fullDevice
    case pos =>
      rw [(Artifact.sameSurroundings_generated.fullDevice l).mp hd,
        (Artifact.sameSurroundings_generated.fullDevice l).mp hd]
    case neg =>
      rw [Artifact.node?_generated hd, Artifact.node?_generated hd, Artifact.last?_perm h ha]

end

-- A run with three spellings of one file, two paths through that file, a full device and a file in
-- another directory.
def spelledTree : FileTree where
  workingDirectory := []
  bindings := [
    (["port.def"], .file "[PORT]\ntype = integer\ndefine = PORT\n[NAME]\nvalue = a".toUTF8),
    (["site.conf"], .file "PORT = 8080".toUTF8),
    (["gen"], .directory),
    (["dev"], .directory),
    (["dev", "full"], .fullDevice)]

def spelledOptions : Options where
  definitions := ["port.def"]
  config := "site.conf"
  artifacts := [
    ⟨.header, "out"⟩,
    ⟨.makefile, "out/../again"⟩,
    ⟨.header, "gen//../out"⟩,
    ⟨.makefile, "out/inner"⟩,
    ⟨.header, "/dev/full"⟩,
    ⟨.makefile, "./out"⟩,
    ⟨.header, "gen/config.h"⟩]

-- The same run with artifacts that are apart. One of them lies behind the file of another.
def apartOptions : Options :=
  { spelledOptions with
    artifacts := [
      ⟨.header, "out"⟩,
      ⟨.makefile, "out/inner"⟩,
      ⟨.header, "/dev/full"⟩,
      ⟨.makefile, "gen/../again"⟩] }

def spelledReport : Report where
  definitions := 2
  resolution := { resolved := 1 }
  written := 4
  failed := 3

def apartReport : Report :=
  { spelledReport with written := 2, failed := 2 }

def spelledRegistry : Registry where
  definitions := [
    { name := "PORT", define := "PORT", type := .integer, assigned := some (.integer 8080) },
    { name := "NAME", defaultText := some "a", assigned := some (.string "a") }]

end BuildConfig
