import BuildConfig.Proofs.Files.Reading
import BuildConfig.Proofs.Run.Artifacts
import BuildConfig.Proofs.Run.Meaning

namespace BuildConfig

-- Nothing that a run reads is where one of its artifacts goes.
def Options.SparesSources (o : Options) (tree : FileTree) : Prop :=
  ∀ path ∈ o.config :: o.definitions, ∀ a ∈ o.artifacts, ∀ l,
    tree.target a.path = .ok l → ¬tree.LeadsTo path l

theorem Options.sparesSources_iff {o : Options} {tree : FileTree} :
    o.SparesSources tree ↔
      ∀ path ∈ o.config :: o.definitions, ∀ a ∈ o.artifacts,
        ∀ l ∈ (tree.target a.path).toOption, ¬tree.LeadsTo path l := by
  have ht (a : Artifact) (l : Location) :
      l ∈ (tree.target a.path).toOption ↔ tree.target a.path = .ok l := by
    cases tree.target a.path <;> simp [Except.toOption]
  simp only [SparesSources, ht]

instance {o : Options} {tree : FileTree} : Decidable (o.SparesSources tree) :=
  decidable_of_iff _ Options.sparesSources_iff.symm

-- It does not matter why a file cannot be read.
theorem Document.ofContent?_congr {content₁ content₂ : Except FileError String}
    (h : ∀ text, content₁ = .ok text ↔ content₂ = .ok text) :
    ofContent? content₁ = ofContent? content₂ := by
  apply Option.ext
  intro document
  simp only [ofContent?_eq_some_iff, h]

section
variable {o : Options} {tree tree₁ tree₂ : FileTree} {r : Registry} {resolution : Resolution}

theorem declared_congr (h : ∀ path ∈ o.definitions, ∀ text,
    tree₁.readText path = .ok text ↔ tree₂.readText path = .ok text) :
    tree₁.declared o = tree₂.declared o := by
  simp only [FileTree.declared, declarations, List.filterMap_map]
  congr 2
  apply List.filterMap_congr
  intro path hp
  exact Document.ofContent?_congr (h path hp)

theorem value_configureFrom_congr (hd : tree₁.declared o = tree₂.declared o)
    (hc : tree₁.readText o.config = tree₂.readText o.config) :
    (configureFrom tree₁ o).value = (configureFrom tree₂ o).value := by
  have hd : declarations (o.definitions.map tree₁.source) =
      declarations (o.definitions.map tree₂.source) := hd
  simp only [value_configureFrom, resolvedFrom, Registry.ofSources_eq_meaning, hd, hc]

theorem exists_readText_of_configured
    (hc : (configureFrom tree o).value = .ok (r, resolution)) :
    ∃ text, tree.readText o.config = .ok text := by
  cases ht : tree.readText o.config with
  | ok text => exact ⟨text, rfl⟩
  | error cause =>
    rw [value_configureFrom, resolvedFrom_of_unreadable ht] at hc
    contradiction

theorem value_generateAll_congr (h : tree₁.SameSurroundings tree₂) :
    ((generateAll o r resolution : StateM FileTree _) tree₁).1.value =
      ((generateAll o r resolution : StateM FileTree _) tree₂).1.value := by
  have hs : Artifact.succeeds o.naming r tree₁ = Artifact.succeeds o.naming r tree₂ :=
    funext fun _ => Artifact.succeeds_congr h
  rw [generateAll_tree.left, generateAll_tree.left, hs]

namespace Options.SparesSources
variable (h : o.SparesSources tree)
include h

-- The artifacts leave everything in place to which the paths of the sources lead.
theorem readText_generated_iff {path text : String} (hp : path ∈ o.config :: o.definitions) :
    tree.readText path = .ok text ↔
      (Artifact.generated o.naming r tree o.artifacts).readText path = .ok text := by
  apply Artifact.sameSurroundings_generated.readText_iff
  intro l hl
  apply Artifact.node?_generated_of_not_target
  exact fun a ha ht => h path hp a ha l ht hl

theorem value_configureFrom_generated (hc : (configureFrom tree o).value = .ok (r, resolution)) :
    (configureFrom (Artifact.generated o.naming r tree o.artifacts) o).value =
      .ok (r, resolution) := by
  have ⟨text, ht⟩ := exists_readText_of_configured hc
  rw [← hc]
  apply Eq.symm
  apply value_configureFrom_congr
  case hd =>
    apply declared_congr
    exact fun path hp text => h.readText_generated_iff (List.mem_cons_of_mem _ hp)
  case hc => rw [ht, (h.readText_generated_iff List.mem_cons_self).mp ht]

theorem generated : o.SparesSources (Artifact.generated o.naming r tree o.artifacts) := by
  have hs : tree.SameSurroundings (Artifact.generated o.naming r tree o.artifacts) :=
    Artifact.sameSurroundings_generated
  intro path hp a ha l ht hl
  apply h path hp a ha l (hs.symm.target ht)
  cases hl with
  | inl hr => exact hs.symm.leadsTo hr (FileTree.not_directory_of_target ht)
  | inr ht => exact .inr (hs.symm.target ht)

end Options.SparesSources
end

-- Two definition files lie behind a file that is there only after the first run.
def braidedOptions : Options :=
  { spelledOptions with
    definitions := ["gen/../port.def", "out/port.def", "out/../port.def"] }

end BuildConfig
