import BuildConfig.Proofs.Registry.Resolution

namespace BuildConfig

-- What the definition files of a run declare.
def FileTree.declared (tree : FileTree) (o : Options) : Document :=
  declarations (o.definitions.map tree.source)

-- The registry of a run before it is checked.
def resolvedFrom (tree : FileTree) (o : Options) :
    Reported (Except RunError (Registry × Resolution)) :=
  (Registry.ofSources (o.definitions.map tree.source)).value.resolveFile o.config
    o.suppressUndefined (tree.readText o.config)

section
variable {tree : FileTree} {o : Options} {text : String} {given : Document}

theorem value_configureFrom :
    (configureFrom tree o).value =
      (resolvedFrom tree o).value.bind fun r => r.1.checkRequired.map fun _ => r := by
  simp only [configureFrom, configure, resolvedFrom, FileTree.source, Reported.value_bind]
  split
  case h_1 h => rw [h]; rfl
  case h_2 h => rw [h]; rfl

theorem resolvedFrom_of_unreadable {cause : FileError} (h : tree.readText o.config = .error cause) :
    (resolvedFrom tree o).value = .error (.unreadableConfig o.config cause) := by
  rw [resolvedFrom, h]
  rfl

theorem resolvedFrom_of_malformed {e : Document.Error} (ht : tree.readText o.config = .ok text)
    (he : Document.read text = .error e) :
    (resolvedFrom tree o).value = .error (.malformedConfig o.config e) := by
  rw [resolvedFrom, ht, Registry.resolveFile]
  simp [he]

-- All definition files and the configuration come down to what their entries mean, and that is
-- what is checked.
theorem configureFrom_of_read (ht : tree.readText o.config = .ok text)
    (hg : Document.read text = .ok given) :
    let r := Registry.meaning (tree.declared o) given
    ∃ counts, (resolvedFrom tree o).value = .ok (r, counts) ∧
      (configureFrom tree o).value = r.checkRequired.map fun _ => (r, counts) := by
  let resolved := (Registry.meaning (tree.declared o) []).resolveDocument o.config
    o.suppressUndefined given
  have hr : (resolvedFrom tree o).value = .ok resolved.value := by
    rw [resolvedFrom, ht, Registry.resolveFile, Registry.ofSources_eq_meaning]
    simp only [hg]
    rfl
  have hm : resolved.value.1 = .meaning (tree.declared o) given := Registry.resolveDocument_meaning
  refine ⟨resolved.value.2, by rw [hr, ← hm], ?_⟩
  rw [value_configureFrom, hr, ← hm]
  rfl

end

-- The meaning of a run. What is checked and what every artifact is made of is the registry that
-- the declared and given entries come to.
theorem run_means {o : Options} {tree : FileTree} {text : String} {given : Document}
    (hd : o.definitions ≠ []) (ht : tree.readText o.config = .ok text)
    (hg : Document.read text = .ok given) :
    let r := Registry.meaning (tree.declared o) given
    let warnings := (configureFrom tree o).warnings
    ∃ counts,
      (resolvedFrom tree o).value = .ok (r, counts) ∧
      (run o : StateM FileTree _) tree =
        match r.checkRequired with
        | .error e => (⟨.error e, warnings⟩, tree)
        | .ok _ =>
          let (report, written) := (generateAll o r counts : StateM FileTree _) tree
          (⟨.ok report.value, warnings ++ report.warnings⟩, written) := by
  intro r warnings
  have ⟨counts, hr, hc⟩ := configureFrom_of_read ht hg
  refine ⟨counts, hr, ?_⟩
  cases he : r.checkRequired with
  | error e => exact run_tree_of_error hd (by rw [hc, he]; rfl)
  | ok _    => exact run_tree_of_ok hd (by rw [hc, he]; rfl)

-- Four definition files: one with a default that another type claims later, one that is cut short,
-- one that is not there, and one with the final types.
def portTree : FileTree where
  workingDirectory := []
  bindings := [
    (["early.def"], .file "define = X\n[PORT]\nvalue = 80\ntype = boolean\nrequired = 1".toUTF8),
    (["cut.def"], .file "[PORT]\ntype = string\n[HOST".toUTF8),
    (["late.def"], .file "[PORT]\ntype = integer\ndefine = PORT\n[NAME]\ntype = text".toUTF8),
    (["site.conf"], .file "PORT = 8080\n[other]\nPORT = none\nHOST = a".toUTF8)]

def portOptions : Options where
  definitions := ["early.def", "cut.def", "absent.def", "late.def"]
  config := "site.conf"

def portConfig : String :=
  "PORT = 8080\n[other]\nPORT = none\nHOST = a"

def portGiven : Document := [
  ⟨"", "PORT", "8080", 1⟩,
  ⟨"other", "PORT", "none", 3⟩,
  ⟨"other", "HOST", "a", 4⟩]

def portRegistry : Registry where
  definitions := [
    { name := "PORT", define := "PORT", required := true, defaultText := some "80",
      type := .integer, assigned := some (.integer 8080) },
    { name := "NAME" }]

theorem run_means_portTree :
    portOptions.definitions ≠ [] ∧
      portTree.readText portOptions.config = .ok portConfig ∧
      Document.read portConfig = .ok portGiven ∧
      ∃ counts, (resolvedFrom portTree portOptions).value = .ok (portRegistry, counts) := by
  have hd : portOptions.definitions ≠ [] := by decide
  have ht : portTree.readText portOptions.config = .ok portConfig := by decide +kernel
  have hg : Document.read portConfig = .ok portGiven := by decide +kernel
  have hr : Registry.meaning (portTree.declared portOptions) portGiven = portRegistry := by
    decide +kernel
  have ⟨counts, hm, _⟩ := run_means hd ht hg
  exact ⟨hd, ht, hg, counts, hr ▸ hm⟩

end BuildConfig
