import BuildConfig.Proofs.Document.Reader
import BuildConfig.Proofs.Run.Meaning

namespace BuildConfig

-- A key that has to have a value and is left without one: no text that is given for it fits its
-- type, and neither does its default.
structure Lacks (declared given : Document) (name : String) : Prop where
  required : (lastValue? (declared.entriesOf name) "required").any Value.truth
  given    : ∀ e ∈ given, e.key = name →
    Value.read? (declaredType (declared.entriesOf name)) e.value = none
  default  : ∀ text, lastValue? (declared.entriesOf name) "value" = some text →
    Value.read? (declaredType (declared.entriesOf name)) text = none

-- How a run ends, told from what its files hold. One that does not fail counts the declared keys.
inductive Ends (tree : FileTree) (o : Options) : Except RunError Nat → Prop
  | noDefinitionFiles (hd : o.definitions = []) : Ends tree o (.error .noDefinitionFiles)
  | unreadableConfig {cause} (hd : o.definitions ≠ [])
    (ht : tree.readText o.config = .error cause) :
    Ends tree o (.error (.unreadableConfig o.config cause))
  | malformedConfig {text e} (hd : o.definitions ≠ []) (ht : tree.readText o.config = .ok text)
    (hf : Document.FirstFault (Document.texts text.toList) e) :
    Ends tree o (.error (.malformedConfig o.config e))
  | missingValue {text given before name after} (hd : o.definitions ≠ [])
    (ht : tree.readText o.config = .ok text) (hg : Document.read text = .ok given)
    (hs : (tree.declared o).sections = before ++ name :: after)
    (hl : Lacks (tree.declared o) given name)
    (hb : ∀ other ∈ before, ¬Lacks (tree.declared o) given other) :
    Ends tree o (.error (.missingValue name))
  | completes {text given} (hd : o.definitions ≠ []) (ht : tree.readText o.config = .ok text)
    (hg : Document.read text = .ok given)
    (hl : ∀ name ∈ (tree.declared o).sections, ¬Lacks (tree.declared o) given name) :
    Ends tree o (.ok (tree.declared o).sections.length)

section
variable {declared given : Document} {name : String}

-- A key without a value, as it stands in the registry.
def isMissing (declared given : Document) (name : String) : Bool :=
  let d := Definition.meaning name (declared.entriesOf name) (given.textsFor name)
  d.required && !d.hasValue

theorem isMissing_iff : isMissing declared given name ↔ Lacks declared given name := by
  have hv {d : Definition} : d.hasValue = false ↔ d.assigned = none := by
    rw [Definition.hasValue, Option.isSome_eq_false_iff, Option.isNone_iff_eq_none]
  rw [isMissing, Bool.and_eq_true, Bool.not_eq_true', hv]
  simp only [Definition.meaning, Option.or_eq_none_iff, lastFitting?_eq_none_iff,
    Option.bind_eq_none_iff]
  constructor
  · rintro ⟨hr, hg, hd⟩
    refine ⟨hr, fun e he hk => hg _ ?_, hd⟩
    exact List.mem_map_of_mem (List.mem_filter.mpr ⟨he, by simpa using hk⟩)
  · rintro ⟨hr, hg, hd⟩
    refine ⟨hr, fun text ht => ?_, hd⟩
    obtain ⟨e, he, rfl⟩ := List.mem_map.mp ht
    obtain ⟨he, hk⟩ := List.mem_filter.mp he
    exact hg e he (by simpa using hk)

instance : Decidable (Lacks declared given name) :=
  decidable_of_iff _ isMissing_iff

theorem missing?_meaning :
    (Registry.meaning declared given).missing? =
      (declared.sections.find? (isMissing declared given)).map fun name =>
        .meaning name (declared.entriesOf name) (given.textsFor name) :=
  List.find?_map

theorem checkRequired_meaning_of_lacks {before after : List String}
    (hs : declared.sections = before ++ name :: after) (hl : Lacks declared given name)
    (hb : ∀ other ∈ before, ¬Lacks declared given other) :
    (Registry.meaning declared given).checkRequired = .error (.missingValue name) := by
  have hf : declared.sections.find? (isMissing declared given) = some name := by
    refine List.find?_eq_some_iff_append.mpr ⟨isMissing_iff.mpr hl, before, after, hs, ?_⟩
    intro other ho
    have := mt isMissing_iff.mp (hb other ho)
    simpa using this
  rw [Registry.checkRequired, missing?_meaning, hf]
  rfl

theorem checkRequired_meaning_of_not_lacks
    (hl : ∀ name ∈ declared.sections, ¬Lacks declared given name) :
    (Registry.meaning declared given).checkRequired = .ok () := by
  have hf : declared.sections.find? (isMissing declared given) = none :=
    List.find?_eq_none.mpr fun name hn => mt isMissing_iff.mp (hl name hn)
  rw [Registry.checkRequired, missing?_meaning, hf]
  rfl

-- Among the declared keys either none lacks a value or one is the first to lack it.
theorem lacks_none_or_first :
    (∀ name ∈ declared.sections, ¬Lacks declared given name) ∨
      ∃ before name after, declared.sections = before ++ name :: after ∧
        Lacks declared given name ∧ ∀ other ∈ before, ¬Lacks declared given other := by
  cases hf : declared.sections.find? (isMissing declared given) with
  | none =>
    exact .inl fun name hn hl => List.find?_eq_none.mp hf name hn (isMissing_iff.mpr hl)
  | some name =>
    have ⟨hm, before, after, hs, hb⟩ := List.find?_eq_some_iff_append.mp hf
    refine .inr ⟨before, name, after, hs, isMissing_iff.mp hm, fun other ho hl => ?_⟩
    have := hb other ho
    rw [isMissing_iff.mpr hl] at this
    contradiction

end

section
variable {tree : FileTree} {o : Options} {outcome : Except RunError Nat}

-- What a run answers, with the report cut down to the number of keys.
def outcomeOf (tree : FileTree) (o : Options) : Except RunError Nat :=
  ((run o : StateM FileTree _) tree).1.value.map (·.definitions)

theorem outcomeOf_nil (hd : o.definitions = []) : outcomeOf tree o = .error .noDefinitionFiles := by
  rw [outcomeOf, run_tree_nil hd]
  rfl

theorem outcomeOf_of_ne_nil (hd : o.definitions ≠ []) :
    outcomeOf tree o = (configureFrom tree o).value.map (·.1.definitions.length) := by
  rw [outcomeOf]
  cases hr : (configureFrom tree o).value with
  | error e =>
    rw [run_tree_of_error hd hr]
    rfl
  | ok r =>
    rw [run_tree_of_ok hd hr]
    rfl

theorem outcomeOf_of_read {text : String} {given : Document} (hd : o.definitions ≠ [])
    (ht : tree.readText o.config = .ok text) (hg : Document.read text = .ok given) :
    outcomeOf tree o =
      (Registry.meaning (tree.declared o) given).checkRequired.map fun _ =>
        (tree.declared o).sections.length := by
  have ⟨counts, _, hc⟩ := configureFrom_of_read ht hg
  rw [outcomeOf_of_ne_nil hd, hc]
  cases (Registry.meaning (tree.declared o) given).checkRequired with
  | error e => rfl
  | ok _    => exact congrArg Except.ok (List.length_map _)

theorem Ends.outcomeOf_eq (h : Ends tree o outcome) : outcomeOf tree o = outcome := by
  cases h with
  | noDefinitionFiles hd => exact outcomeOf_nil hd
  | unreadableConfig hd ht =>
    rw [outcomeOf_of_ne_nil hd, value_configureFrom, resolvedFrom_of_unreadable ht]
    rfl
  | malformedConfig hd ht hf =>
    rw [outcomeOf_of_ne_nil hd, value_configureFrom,
      resolvedFrom_of_malformed ht (Document.read_eq_error_iff.mpr hf)]
    rfl
  | missingValue hd ht hg hs hl hb =>
    rw [outcomeOf_of_read hd ht hg, checkRequired_meaning_of_lacks hs hl hb]
    rfl
  | completes hd ht hg hl =>
    rw [outcomeOf_of_read hd ht hg, checkRequired_meaning_of_not_lacks hl]
    rfl

theorem exists_ends : ∃ outcome, Ends tree o outcome := by
  by_cases hd : o.definitions = []
  case pos => exact ⟨_, .noDefinitionFiles hd⟩
  cases ht : tree.readText o.config with
  | error cause => exact ⟨_, .unreadableConfig hd ht⟩
  | ok text =>
    cases hg : Document.read text with
    | error e => exact ⟨_, .malformedConfig hd ht (Document.read_eq_error_iff.mp hg)⟩
    | ok given =>
      rcases lacks_none_or_first with hl | ⟨_, _, _, hs, hl, hb⟩
      · exact ⟨_, .completes hd ht hg hl⟩
      · exact ⟨_, .missingValue hd ht hg hs hl hb⟩

theorem ends_iff : Ends tree o outcome ↔ outcomeOf tree o = outcome := by
  refine ⟨Ends.outcomeOf_eq, ?_⟩
  rintro rfl
  have ⟨outcome, h⟩ := @exists_ends tree o
  rwa [h.outcomeOf_eq]

end

section
variable {σ : Type} [FileAccess (StateM σ)] [ShowsTree σ] {o : Options} {s : σ}

-- A run that fails has written nothing.
theorem state_of_run_error {e : RunError} (h : ((run o : StateM σ _) s).1.value = .error e) :
    ((run o : StateM σ _) s).2 = s := by
  by_cases hd : o.definitions = []
  case pos => rw [run_nil hd]
  case neg =>
    cases hr : (configureFrom (shown s) o).value with
    | error e => rw [run_of_error hd hr]
    | ok r =>
      rw [run_of_ok hd hr] at h
      cases h

-- A run that completes has written its artifacts and nothing else.
theorem state_of_run_ok {report : Report} (h : ((run o : StateM σ _) s).1.value = .ok report) :
    ∃ r, ((run o : StateM σ _) s).2 =
      ((o.artifacts.mapM (·.generate o.naming r) : StateM σ _) s).2 := by
  by_cases hd : o.definitions = []
  case pos =>
    rw [run_nil hd] at h
    contradiction
  case neg =>
    cases hr : (configureFrom (shown s) o).value with
    | error e =>
      rw [run_of_error hd hr] at h
      contradiction
    | ok configured =>
      rw [run_of_ok hd hr]
      exact ⟨configured.1, rfl⟩

end

-- A run ends as its files tell, and where it fails the files stay as they were.
theorem run_ends (o : Options) (tree : FileTree) :
    (∀ outcome, ((run o : StateM FileTree _) tree).1.value.map (·.definitions) = outcome ↔
      Ends tree o outcome) ∧
    ∀ e, ((run o : StateM FileTree _) tree).1.value = .error e →
      ((run o : StateM FileTree _) tree).2 = tree :=
  ⟨fun _ => ends_iff.symm, fun _ => state_of_run_error⟩

-- Two keys lack a value. The first of them had a default until a later file replaced it.
def lackingTree : FileTree where
  workingDirectory := []
  bindings := [
    (["early.def"], .file
      "[PORT]\nrequired = 1\nvalue = 80\n[NODE]\ntype = integer\nrequired = 1\nvalue = 7".toUTF8),
    (["late.def"], .file "[NODE]\nvalue = seven\n[HOST]\nrequired = true\ntype = integer".toUTF8),
    (["site.conf"], .file "NODE = eight\nPORT = none".toUTF8)]

def lackingOptions : Options where
  definitions := ["early.def", "late.def"]
  config := "site.conf"
  artifacts := [⟨.header, "config.h"⟩]

theorem run_ends_lackingTree :
    ((run lackingOptions : StateM FileTree _) lackingTree).1.value = .error (.missingValue "NODE") ∧
      ((run lackingOptions : StateM FileTree _) lackingTree).2 = lackingTree := by
  have ⟨hi, ht⟩ := run_ends lackingOptions lackingTree
  have hr : lackingTree.readText lackingOptions.config = .ok "NODE = eight\nPORT = none" := by
    decide +kernel
  have hg : Document.read "NODE = eight\nPORT = none" =
      .ok [⟨"", "NODE", "eight", 1⟩, ⟨"", "PORT", "none", 2⟩] := by
    decide +kernel
  have hs : (lackingTree.declared lackingOptions).sections = ["PORT"] ++ "NODE" :: ["HOST"] := by
    decide +kernel
  have he := (hi _).mpr (.missingValue (by decide) hr hg hs (by decide +kernel) (by decide +kernel))
  cases hv : ((run lackingOptions : StateM FileTree _) lackingTree).1.value with
  | error e =>
    rw [hv] at he
    cases he
    exact ⟨rfl, ht _ hv⟩
  | ok report =>
    rw [hv] at he
    cases he

end BuildConfig
