import BuildConfig.Proofs.Artifact.Lines
import BuildConfig.Proofs.Run.Artifacts
import BuildConfig.Proofs.Run.Meaning

namespace BuildConfig

-- Whether a warning is about a key of the configuration that no definition file declares.
def Warning.isUndefinedKey : Warning → Bool
  | undefinedKey _ _ => true
  | _                => false

namespace Reported

-- The same result twice, the second time without the warnings about undefined keys. A result is hushed
-- to itself if it has no such warning.
structure Hushed {α : Type} (loud quiet : Reported α) : Prop where
  value    : quiet.value = loud.value
  warnings : quiet.warnings = loud.warnings.filter (!·.isUndefinedKey)

namespace Hushed
variable {α β : Type} {r r₁ r₂ : Reported α} {f₁ f₂ : α → Reported β}

theorem self_iff : Hushed r r ↔ ∀ w ∈ r.warnings, w.isUndefinedKey = false := by
  constructor
  case mp =>
    intro h w hw
    simpa using List.filter_eq_self.mp h.warnings.symm w hw
  case mpr =>
    intro h
    refine ⟨rfl, (List.filter_eq_self.mpr fun w hw => ?_).symm⟩
    rw [h w hw, Bool.not_false]

theorem pure (a : α) : Hushed (pure a) (pure a) :=
  ⟨rfl, rfl⟩

theorem bind (h : Hushed r₁ r₂) (hf : ∀ a, Hushed (f₁ a) (f₂ a)) :
    Hushed (r₁ >>= f₁) (r₂ >>= f₂) where
  value    := by rw [value_bind, value_bind, h.value, (hf _).value]
  warnings := by
    rw [warnings_bind, warnings_bind, List.filter_append, h.value, h.warnings, (hf _).warnings]

theorem map {f : α → β} (h : Hushed r₁ r₂) : Hushed (f <$> r₁) (f <$> r₂) :=
  h.bind fun _ => .pure _

-- What every step leaves out is what the whole loop leaves out.
theorem foldlM {f₁ f₂ : β → α → Reported β} (h : ∀ b a, Hushed (f₁ b a) (f₂ b a)) {as : List α}
    {b : β} : Hushed (as.foldlM f₁ b) (as.foldlM f₂ b) := by
  induction as generalizing b with
  | nil => exact .pure b
  | cons a as ih =>
    rw [List.foldlM_cons, List.foldlM_cons]
    exact (h b a).bind fun _ => ih

theorem warn {w : Warning} (h : w.isUndefinedKey = false) : Hushed (warn w) (warn w) :=
  self_iff.mpr (List.forall_mem_singleton.mpr h)

theorem warnIf {p : Prop} [Decidable p] {w : Warning} (h : w.isUndefinedKey = false) :
    Hushed (warnIf p w) (warnIf p w) := by
  by_cases hp : p <;> simp [self_iff, hp, h]

end Hushed
end Reported

open Reported (Hushed)

namespace Registry

variable {r : Registry} {s : Resolving} {d : Declaring} {e : Entry} {document : Document}
variable {source path name : String} {content : Except FileError String} {sources : List Source}

-- Taking in definitions says nothing about undefined keys.
theorem hushed_declareEntry : Hushed (declareEntry source d e) (declareEntry source d e) := by
  rw [declareEntry]
  split
  case isTrue => exact (Hushed.warn rfl).bind fun _ => .pure _
  case isFalse =>
    cases Field.ofKeyword? e.key with
    | none   => exact (Hushed.warn rfl).bind fun _ => .pure _
    | some f => exact (Hushed.warnIf rfl).bind fun _ => .pure _

theorem hushed_settleDefault : Hushed (settleDefault source r name) (settleDefault source r name) := by
  rw [settleDefault]
  cases r.find? name with
  | none => exact .pure r
  | some d =>
    refine Hushed.bind ?_ fun _ => .pure _
    rw [Definition.settle]
    cases d.defaultText with
    | none => exact .pure d
    | some text =>
      dsimp only
      cases d.assign text with
      | ok settled   => exact .pure settled
      | error misfit => exact Hushed.self_iff.mpr (List.forall_mem_singleton.mpr rfl)

theorem hushed_declareDocument :
    Hushed (r.declareDocument source document) (r.declareDocument source document) :=
  Hushed.bind (.foldlM fun _ _ => hushed_declareEntry) fun _ =>
    .foldlM fun _ _ => hushed_settleDefault

theorem hushed_declareFile : Hushed (r.declareFile path content) (r.declareFile path content) := by
  unfold declareFile
  cases content with
  | error cause => exact (Hushed.warn rfl).bind fun _ => .pure _
  | ok text =>
    dsimp only
    cases Document.read text with
    | error e     => exact (Hushed.warn rfl).bind fun _ => .pure _
    | ok document => exact hushed_declareDocument.bind fun _ => .pure _

theorem hushed_ofSources : Hushed (ofSources sources) (ofSources sources) :=
  .foldlM fun _ _ => hushed_declareFile.map

-- Taking in a configuration says it unless it is suppressed.
theorem hushed_resolveEntry : Hushed (resolveEntry source false s e) (resolveEntry source true s e) := by
  rw [resolveEntry, resolveEntry]
  cases s.registry.find? e.key with
  | none => exact ⟨rfl, rfl⟩
  | some d =>
    dsimp only
    cases d.assign e.value with
    | ok assigned  => exact .pure _
    | error misfit => exact (Hushed.warn rfl).bind fun _ => .pure _

theorem hushed_resolveDocument :
    Hushed (r.resolveDocument source false document) (r.resolveDocument source true document) :=
  Hushed.bind (.foldlM fun _ _ => hushed_resolveEntry) fun _ => .pure _

theorem hushed_resolveFile :
    Hushed (r.resolveFile path false content) (r.resolveFile path true content) := by
  unfold resolveFile
  cases content with
  | error cause => exact .pure _
  | ok text =>
    dsimp only
    cases Document.read text with
    | error e     => exact .pure _
    | ok document => exact hushed_resolveDocument.map

end Registry

section
variable {o : Options} {tree : FileTree} {naming : Naming} {r : Registry} {resolution : Resolution}
variable {a : Artifact} {artifacts : List Artifact} {suppressUndefined : Bool}

theorem warnings_configureFrom :
    (configureFrom tree o).warnings =
      (Registry.ofSources (o.definitions.map tree.source)).warnings ++
        (resolvedFrom tree o).warnings := by
  simp only [configureFrom, configure, resolvedFrom, FileTree.source, Reported.warnings_bind]
  split <;> simp only [Reported.warnings_pure, List.append_nil]

theorem hushed_resolvedFrom :
    Hushed (resolvedFrom tree { o with suppressUndefined := false })
      (resolvedFrom tree { o with suppressUndefined := true }) :=
  Registry.hushed_resolveFile

theorem hushed_configureFrom :
    Hushed (configureFrom tree { o with suppressUndefined := false })
      (configureFrom tree { o with suppressUndefined := true }) where
  value    := by rw [value_configureFrom, value_configureFrom, hushed_resolvedFrom.value]
  warnings := by
    rw [warnings_configureFrom, warnings_configureFrom, List.filter_append,
      ← hushed_resolvedFrom.warnings, ← Registry.hushed_ofSources.warnings]

-- Neither does generating artifacts.
theorem Artifact.hushed_generate :
    let reported := ((a.generate naming r : StateM FileTree _) tree).1
    Hushed reported reported := by
  have hr : ∀ w ∈ (a.kind.render naming r).warnings, w.isUndefinedKey = false := by
    rw [ArtifactKind.warnings_render]
    intro w hw
    obtain ⟨d, _, rfl⟩ := List.mem_map.mp hw
    rfl
  intro reported
  rw [Hushed.self_iff]
  simp only [reported, generate, bind, StateT.bind]
  cases h : tree.writeText a.path (a.kind.render naming r).value with
  | ok written =>
    rw [FileAccess.writeText_tree_ok h]
    exact hr
  | error e =>
    rw [FileAccess.writeText_tree_error h]
    cases e with
    | atOpening cause => exact List.forall_mem_singleton.mpr rfl
    | atWriting cause => exact List.forall_mem_append.mpr ⟨hr, List.forall_mem_singleton.mpr rfl⟩

theorem Artifact.hushed_of_mem_mapM_generate {reported : Reported Bool}
    (h : reported ∈ ((artifacts.mapM (·.generate naming r) : StateM FileTree _) tree).1) :
    Hushed reported reported := by
  induction artifacts generalizing tree with
  | nil => cases h
  | cons a artifacts ih =>
    rw [mapM_generate_cons] at h
    rcases List.mem_cons.mp h with rfl | h
    case inl => exact hushed_generate
    case inr => exact ih h

theorem hushed_generateAll :
    let report := ((generateAll o r resolution : StateM FileTree _) tree).1
    Hushed report report := by
  refine Hushed.self_iff.mpr fun w hw => ?_
  obtain ⟨reported, hr, hw⟩ := List.mem_flatMap.mp hw
  exact Hushed.self_iff.mp (Artifact.hushed_of_mem_mapM_generate hr) w hw

-- What a run reports of its configuration file. Without definition files it never looks at it.
def configurationWarnings (tree : FileTree) (o : Options) : List Warning :=
  if o.definitions = [] then [] else (resolvedFrom tree o).warnings

theorem exists_warnings_run :
    ∃ before after,
      ((run o : StateM FileTree _) tree).1.warnings =
        before ++ configurationWarnings tree o ++ after ∧
      ∀ w ∈ before ++ after, w.isUndefinedKey = false := by
  rw [configurationWarnings]
  by_cases hd : o.definitions = []
  case pos =>
    rw [run_tree_nil hd, if_pos hd]
    exact ⟨[], [], rfl, nofun⟩
  case neg =>
    have hs : ∀ w ∈ (Registry.ofSources (o.definitions.map tree.source)).warnings,
        w.isUndefinedKey = false :=
      Hushed.self_iff.mp Registry.hushed_ofSources
    rw [if_neg hd]
    cases hc : (configureFrom tree o).value with
    | error e =>
      rw [run_tree_of_error hd hc]
      refine ⟨_, [], ?_, List.forall_mem_append.mpr ⟨hs, nofun⟩⟩
      rw [List.append_nil]
      exact warnings_configureFrom
    | ok configured =>
      rw [run_tree_of_ok hd hc]
      have hg := Hushed.self_iff.mp (@hushed_generateAll o tree configured.1 configured.2)
      refine ⟨_, _, ?_, List.forall_mem_append.mpr ⟨hs, hg⟩⟩
      exact congrArg (· ++ _) warnings_configureFrom

theorem hushed_run {o₁ o₂ : Options} (h₁ : o₁ = { o with suppressUndefined := false })
    (h₂ : o₂ = { o with suppressUndefined := true }) :
    let loud := (run o₁ : StateM FileTree _) tree
    let quiet := (run o₂ : StateM FileTree _) tree
    Hushed loud.1 quiet.1 ∧ quiet.2 = loud.2 := by
  have hh : Hushed (configureFrom tree o₁) (configureFrom tree o₂) := h₁ ▸ h₂ ▸ hushed_configureFrom
  have hd₂ : o₂.definitions = o₁.definitions := by rw [h₁, h₂]
  -- Artifacts are not generated any differently.
  have hg (r : Registry) (resolution : Resolution) :
      (generateAll o₂ r resolution : StateM FileTree _) = generateAll o₁ r resolution := by
    rw [h₁, h₂]
    rfl
  dsimp only
  by_cases hd : o₁.definitions = []
  case pos =>
    rw [run_tree_nil hd, run_tree_nil (hd₂.trans hd)]
    exact ⟨.pure _, rfl⟩
  case neg =>
    cases hc : (configureFrom tree o₁).value with
    | error e =>
      rw [run_tree_of_error hd hc, run_tree_of_error (hd₂ ▸ hd) (hh.value.trans hc)]
      exact ⟨⟨rfl, hh.warnings⟩, rfl⟩
    | ok configured =>
      rw [run_tree_of_ok hd hc, run_tree_of_ok (hd₂ ▸ hd) (hh.value.trans hc), hg]
      have hr := @hushed_generateAll o₁ tree configured.1 configured.2
      obtain ⟨⟨report, written⟩, hs⟩ :
          ∃ s, (generateAll o₁ configured.1 configured.2 : StateM FileTree _) tree = s := ⟨_, rfl⟩
      rw [hs] at hr ⊢
      refine ⟨⟨rfl, ?_⟩, rfl⟩
      rw [List.filter_append, ← hh.warnings, ← hr.warnings]

end

-- Suppressing the warnings about undefined keys changes nothing else. The run comes to the same report
-- or error and leaves the same files, and of its warnings those about undefined keys are left out, all of
-- which come from the configuration file.
theorem run_suppressed (o : Options) (tree : FileTree) :
    let loud := (run { o with suppressUndefined := false } : StateM FileTree _) tree
    let quiet := (run { o with suppressUndefined := true } : StateM FileTree _) tree
    quiet.1.value = loud.1.value ∧
      quiet.2 = loud.2 ∧
      quiet.1.warnings = loud.1.warnings.filter (!·.isUndefinedKey) ∧
      ∃ before after,
        loud.1.warnings =
          before ++ configurationWarnings tree { o with suppressUndefined := false } ++ after ∧
        ∀ w ∈ before ++ after, w.isUndefinedKey = false := by
  have ⟨hh, ht⟩ := @hushed_run o tree _ _ rfl rfl
  exact ⟨hh.value, ht, hh.warnings, exists_warnings_run⟩

-- The configuration of this run names a key that none of its four definition files declares.
example :
    (configurationWarnings portTree portOptions).filter (·.isUndefinedKey) =
      [.undefinedKey "site.conf" "HOST"] := by
  decide +kernel

end BuildConfig
