import BuildConfig.Proofs.Registry.Settable
import Mathlib.Data.List.Forall2

namespace BuildConfig

-- What becomes of one entry of a configuration document.
inductive Verdict
  | resolved (v : Value)
  | undefinedKey
  | rejected (misfit : Misfit)
  deriving DecidableEq

namespace Verdict

def ofCoerced : Except Misfit Value → Verdict
  | .ok v         => resolved v
  | .error misfit => rejected misfit

def isResolved : Verdict → Bool
  | resolved _ => true
  | _          => false

def isRejected : Verdict → Bool
  | rejected _ => true
  | _          => false

-- What is reported about an entry with that verdict.
def warnings (source : String) (suppressUndefined : Bool) (e : Entry) : Verdict → List Warning
  | resolved _      => []
  | undefinedKey    => if suppressUndefined then [] else [.undefinedKey source e.key]
  | rejected misfit => [.rejectedValue source e.key misfit]

end Verdict

-- The declared names, each with its type.
abbrev Signature := List (String × ValueType)

-- The verdict on an entry takes no more than names and types.
def Entry.verdict (keys : Signature) (e : Entry) : Verdict :=
  match keys.lookup e.key with
  | none      => .undefinedKey
  | some type => .ofCoerced (Value.coerce type e.value)

namespace Resolution

-- Counts one more entry.
def tally (counts : Resolution) : Verdict → Resolution
  | .resolved _   => { counts with resolved := counts.resolved + 1 }
  | .undefinedKey => { counts with undefinedKeys := counts.undefinedKeys + 1 }
  | .rejected _   => { counts with rejected := counts.rejected + 1 }

-- How many verdicts there are of each class.
def ofVerdicts (verdicts : List Verdict) : Resolution where
  resolved      := verdicts.countP (·.isResolved)
  undefinedKeys := verdicts.countP (· = .undefinedKey)
  rejected      := verdicts.countP (·.isRejected)

variable {verdicts : List Verdict} {verdict : Verdict}

theorem ofVerdicts_append_singleton :
    ofVerdicts (verdicts ++ [verdict]) = (ofVerdicts verdicts).tally verdict := by
  cases verdict <;>
    simp [ofVerdicts, tally, List.countP_append, Verdict.isResolved, Verdict.isRejected]

-- Every verdict is of one class.
theorem total_ofVerdicts :
    let counts := ofVerdicts verdicts
    counts.resolved + counts.undefinedKeys + counts.rejected = verdicts.length := by
  induction verdicts with
  | nil => rfl
  | cons verdict verdicts ih =>
    dsimp only [ofVerdicts] at ih ⊢
    simp only [List.countP_cons, List.length_cons, ← ih]
    cases verdict <;> simp [Verdict.isResolved, Verdict.isRejected] <;> omega

end Resolution

-- What a document makes of a definition. Nothing but what is assigned can change, and that comes from
-- the last entry of the key that is resolved.
structure Definition.Carried (keys : Signature) (document : Document) (d d' : Definition) : Prop where
  frame : d' = { d with assigned := d'.assigned }
  last  : ∀ before e after v, document = before ++ e :: after → e.key = d.name →
    e.verdict keys = .resolved v →
    (∀ e' ∈ after, e'.key = d.name → (e'.verdict keys).isResolved = false) →
    d'.value = v ∧ d'.hasValue
  kept  : (∀ e ∈ document, e.key = d.name → (e.verdict keys).isResolved = false) → d' = d

namespace Definition
variable {d : Definition} {text : String} {before after texts : List String} {v : Value}

theorem foldl_offer_of_unfit (h : ∀ text ∈ texts, Value.read? d.type text = none) :
    texts.foldl offer d = d := by
  rw [foldl_offer, lastFitting?_eq_none_iff.mpr h, Option.none_or]

theorem foldl_offer_of_last (hv : Value.read? d.type text = some v)
    (h : ∀ text ∈ after, Value.read? d.type text = none) :
    (before ++ text :: after).foldl offer d = { d with assigned := some v } := by
  have ho (v? : Option Value) :
      offer { d with assigned := v? } text = { d with assigned := some v } := by
    rw [offer, hv]
  rw [List.foldl_append, List.foldl_cons, @foldl_offer d before, ho]
  exact foldl_offer_of_unfit h

end Definition

theorem Document.textsFor_append {document₁ document₂ : Document} {name : String} :
    (document₁ ++ document₂).textsFor name = document₁.textsFor name ++ document₂.textsFor name := by
  simp only [textsFor, List.filter_append, List.map_append]

namespace Registry

def signature (r : Registry) : Signature :=
  r.definitions.map fun d => (d.name, d.type)

-- When an entry gets which verdict.
inductive Judges (r : Registry) (e : Entry) : Verdict → Prop
  | undefinedKey (h : ∀ d ∈ r.definitions, d.name ≠ e.key) : Judges r e .undefinedKey
  | resolved {d v} (hd : d ∈ r.definitions) (hk : d.name = e.key)
    (hv : Value.coerce d.type e.value = .ok v) : Judges r e (.resolved v)
  | rejected {d misfit} (hd : d ∈ r.definitions) (hk : d.name = e.key)
    (hm : Value.coerce d.type e.value = .error misfit) : Judges r e (.rejected misfit)

variable {r : Registry} {s : Resolving} {e : Entry} {d : Definition} {verdict : Verdict}
variable {document : Document} {name source : String} {suppressUndefined : Bool}

theorem lookup_signature : r.signature.lookup name = (r.find? name).map (·.type) := by
  obtain ⟨definitions⟩ := r
  induction definitions with
  | nil => rfl
  | cons d definitions ih =>
    simp only [signature, find?, List.map_cons, List.lookup_cons, List.find?_cons] at ih ⊢
    by_cases hd : d.name = name
    case pos => simp [hd]
    case neg =>
      have hn : (name == d.name) = false := by simpa using Ne.symm hd
      simp [hd, hn, ih]

theorem verdict_eq :
    e.verdict r.signature = (r.find? e.key).elim .undefinedKey fun d =>
      .ofCoerced (Value.coerce d.type e.value) := by
  rw [Entry.verdict, lookup_signature]
  cases r.find? e.key <;> rfl

theorem verdict_of_mem (h : r.names.Nodup) (hd : d ∈ r.definitions) (hk : e.key = d.name) :
    e.verdict r.signature = .ofCoerced (Value.coerce d.type e.value) := by
  rw [verdict_eq, hk, find?_of_mem h hd]
  rfl

theorem judges_verdict : r.Judges e (e.verdict r.signature) := by
  rw [verdict_eq]
  cases hd : r.find? e.key with
  | none =>
    refine .undefinedKey fun d hd' hk => ?_
    exact find?_eq_none_iff.mp hd (hk ▸ List.mem_map_of_mem hd')
  | some d =>
    have hm := List.mem_of_find?_eq_some hd
    have hk := name_of_find? hd
    rw [Option.elim_some]
    cases hv : Value.coerce d.type e.value with
    | ok v         => exact .resolved hm hk hv
    | error misfit => exact .rejected hm hk hv

theorem Judges.verdict_eq (h : r.names.Nodup) (hj : r.Judges e verdict) :
    e.verdict r.signature = verdict := by
  cases hj with
  | undefinedKey hn =>
    have hn : e.key ∉ r.names := fun hm =>
      have ⟨d, hd, hk⟩ := List.mem_map.mp hm
      hn d hd hk
    rw [Registry.verdict_eq, find?_eq_none_iff.mpr hn, Option.elim_none]
  | resolved hd hk hv => rw [verdict_of_mem h hd hk.symm, hv, Verdict.ofCoerced]
  | rejected hd hk hm => rw [verdict_of_mem h hd hk.symm, hm, Verdict.ofCoerced]

-- One entry is counted and reported as its verdict on the registry at hand says.
theorem counts_resolveEntry :
    (resolveEntry source suppressUndefined s e).value.counts =
      s.counts.tally (e.verdict s.registry.signature) := by
  rw [resolveEntry, verdict_eq]
  cases s.registry.find? e.key with
  | none => rfl
  | some d =>
    simp only [Definition.assign, Option.elim_some]
    cases Value.coerce d.type e.value <;> rfl

theorem warnings_resolveEntry :
    (resolveEntry source suppressUndefined s e).warnings =
      (e.verdict s.registry.signature).warnings source suppressUndefined e := by
  rw [resolveEntry, verdict_eq]
  cases s.registry.find? e.key with
  | none => cases suppressUndefined <;> rfl
  | some d =>
    simp only [Definition.assign, Option.elim_some]
    cases Value.coerce d.type e.value <;> rfl

-- In the middle of a document every entry still has the verdict that it had before the document.
theorem verdict_resolving :
    e.verdict (r.resolving source suppressUndefined document).registry.signature =
      e.verdict r.signature := by
  rw [verdict_eq, verdict_eq, resolving, Reported.value_foldlM, find?_foldl_resolveEntry]
  cases r.find? e.key with
  | none   => rfl
  | some d => rw [Option.map_some, Definition.foldl_offer, Option.elim_some, Option.elim_some]

theorem resolving_append_singleton :
    r.resolving source suppressUndefined (document ++ [e]) =
      (resolveEntry source suppressUndefined (r.resolving source suppressUndefined document)
        e).value := by
  simp only [resolving, Reported.value_foldlM, List.foldl_append, List.foldl_cons, List.foldl_nil]

theorem counts_resolving :
    (r.resolving source suppressUndefined document).counts =
      .ofVerdicts (document.map (·.verdict r.signature)) := by
  induction document using List.reverseRecOn with
  | nil => rfl
  | append_singleton document e ih =>
    rw [resolving_append_singleton, counts_resolveEntry, verdict_resolving, ih, List.map_append,
      List.map_singleton, Resolution.ofVerdicts_append_singleton]

theorem warnings_resolving :
    (document.foldlM (resolveEntry source suppressUndefined) { registry := r }).warnings =
      document.flatMap fun e => (e.verdict r.signature).warnings source suppressUndefined e := by
  induction document using List.reverseRecOn with
  | nil => rfl
  | append_singleton document e ih =>
    have hv : e.verdict (r.resolving source suppressUndefined document).registry.signature =
        e.verdict r.signature :=
      verdict_resolving
    rw [List.foldlM_append, Reported.warnings_bind, ih, List.flatMap_append, List.flatMap_singleton,
      ← hv, List.foldlM_cons, Reported.warnings_bind, warnings_resolveEntry]
    exact congrArg _ (List.append_nil _)

theorem counts_resolveDocument :
    (r.resolveDocument source suppressUndefined document).value.2 =
      .ofVerdicts (document.map (·.verdict r.signature)) :=
  counts_resolving

theorem warnings_resolveDocument :
    (r.resolveDocument source suppressUndefined document).warnings =
      document.flatMap fun e => (e.verdict r.signature).warnings source suppressUndefined e :=
  (List.append_nil _).trans warnings_resolving

-- Each definition is offered the texts of its key in turn.
theorem definitions_resolveDocument (h : r.names.Nodup) :
    (r.resolveDocument source suppressUndefined document).value.1.definitions =
      r.definitions.map fun d => (document.textsFor d.name).foldl Definition.offer d := by
  have hn : (r.resolveDocument source suppressUndefined document).value.1.names = r.names :=
    names_resolveDocument
  rw [definitions_eq (hn ▸ h), hn, names, List.filterMap_map, ← List.filterMap_eq_map]
  refine List.filterMap_congr fun d hd => ?_
  exact find?_resolveDocument.trans (congrArg _ (find?_of_mem h hd))

section
variable (h : r.names.Nodup) (hd : d ∈ r.definitions)
include h hd

theorem read?_of_verdict {v : Value} (hk : e.key = d.name)
    (hv : e.verdict r.signature = .resolved v) : Value.read? d.type e.value = some v := by
  rw [verdict_of_mem h hd hk] at hv
  cases hc : Value.coerce d.type e.value with
  | error misfit =>
    rw [hc] at hv
    contradiction
  | ok v' =>
    rw [hc] at hv
    cases hv
    exact Value.coerce_eq_ok_iff.mp hc

theorem read?_eq_none_of_verdict (hk : e.key = d.name)
    (hv : (e.verdict r.signature).isResolved = false) : Value.read? d.type e.value = none := by
  rw [verdict_of_mem h hd hk] at hv
  cases hc : Value.coerce d.type e.value with
  | error misfit => exact (Value.coerce_eq_error_iff.mp hc).left
  | ok v =>
    rw [hc] at hv
    contradiction

-- Where no entry of the key is resolved, none of its texts fits.
theorem unfit_of_verdicts
    (hn : ∀ e ∈ document, e.key = d.name → (e.verdict r.signature).isResolved = false) :
    ∀ text ∈ document.textsFor d.name, Value.read? d.type text = none := by
  intro text ht
  obtain ⟨e, he, hk, rfl⟩ := mem_textsFor_iff.mp ht
  exact read?_eq_none_of_verdict h hd hk (hn e he hk)

theorem carried_foldl_offer :
    d.Carried r.signature document ((document.textsFor d.name).foldl Definition.offer d) where
  frame := by rw [Definition.foldl_offer]
  kept hn := Definition.foldl_offer_of_unfit (unfit_of_verdicts h hd hn)
  last before e after v hs hk hv hn := by
    have ht : document.textsFor d.name =
        Document.textsFor before d.name ++ e.value :: Document.textsFor after d.name := by
      rw [hs, Document.textsFor_append, Document.textsFor_cons, if_pos hk]
    rw [ht, Definition.foldl_offer_of_last (read?_of_verdict h hd hk hv)
      (unfit_of_verdicts h hd hn)]
    exact ⟨rfl, rfl⟩

end

-- What a pass over a configuration document comes to.
structure Pass (r : Registry) (source : String) (suppressUndefined : Bool) (document : Document)
    (pass : Reported (Registry × Resolution)) : Prop where
  verdict  : ∀ e verdict, e.verdict r.signature = verdict ↔ r.Judges e verdict
  turn     : ∀ before e after, document = before ++ e :: after →
    let s := r.resolving source suppressUndefined before
    let t := resolveEntry source suppressUndefined s e
    t.value.counts = s.counts.tally (e.verdict r.signature) ∧
      t.warnings = (e.verdict r.signature).warnings source suppressUndefined e
  counts   : pass.value.2 = .ofVerdicts (document.map (·.verdict r.signature))
  total    : pass.value.2.resolved + pass.value.2.undefinedKeys + pass.value.2.rejected =
    document.length
  warnings : pass.warnings = document.flatMap fun e =>
    (e.verdict r.signature).warnings source suppressUndefined e
  carried  : List.Forall₂ (Definition.Carried r.signature document) r.definitions
    pass.value.1.definitions

-- A pass over a configuration document treats each entry as the names and types from before the pass
-- demand, whatever the other entries are, and touches nothing but the values.
theorem resolveDocument_by_verdicts (h : r.names.Nodup) (source : String)
    (suppressUndefined : Bool) (document : Document) :
    r.Pass source suppressUndefined document
      (r.resolveDocument source suppressUndefined document) where
  verdict e verdict := by
    constructor
    case mp =>
      rintro rfl
      exact judges_verdict
    case mpr => exact Judges.verdict_eq h
  turn before e after _ := by
    dsimp only
    rw [counts_resolveEntry, warnings_resolveEntry, verdict_resolving]
    exact ⟨rfl, rfl⟩
  counts   := counts_resolveDocument
  total    := by
    rw [counts_resolveDocument]
    exact Resolution.total_ofVerdicts.trans (List.length_map _)
  warnings := warnings_resolveDocument
  carried  := by
    rw [definitions_resolveDocument h, List.forall₂_map_right_iff, List.forall₂_same]
    exact fun d hd => carried_foldl_offer h hd

-- A key with three entries before and after each other's failures, one that keeps what it has, and one
-- that is not declared.
def meterRegistry : Registry where
  definitions := [
    { name := "PORT", define := "PORT", type := .integer },
    { name := "MASK", defaultText := some "0xF0", type := .hexInteger,
      assigned := some (.hexInteger 240) }]

def meterDocument : Document := [
  ⟨"", "PORT", "8080", 1⟩,
  ⟨"", "HOST", "a", 2⟩,
  ⟨"net", "PORT", "none", 4⟩,
  ⟨"net", "PORT", "+443", 5⟩,
  ⟨"net", "MASK", "0xG", 6⟩,
  ⟨"net", "PORT", "", 7⟩]

theorem resolveDocument_by_verdicts_meterRegistry :
    meterRegistry.names.Nodup ∧
      let pass := meterRegistry.resolveDocument "site.conf" true meterDocument
      pass.value.2 = { resolved := 2, undefinedKeys := 1, rejected := 3 } ∧
      pass.warnings = [
        .rejectedValue "site.conf" "PORT" ⟨"none", .integer⟩,
        .rejectedValue "site.conf" "MASK" ⟨"0xG", .hexInteger⟩,
        .rejectedValue "site.conf" "PORT" ⟨"", .integer⟩] ∧
      ∃ port mask, pass.value.1.definitions = [port, mask] ∧ port.value = .integer 443 ∧
        mask.value = .hexInteger 240 := by
  have h : meterRegistry.names.Nodup := by decide
  have hp := resolveDocument_by_verdicts h "site.conf" true meterDocument
  refine ⟨h, hp.counts.trans (by decide), hp.warnings.trans (by decide), ?_⟩
  obtain ⟨port, _, hport, hc, hd⟩ := List.forall₂_cons_left_iff.mp hp.carried
  obtain ⟨mask, _, hmask, hn, rfl⟩ := List.forall₂_cons_left_iff.mp hc
  obtain rfl := List.forall₂_nil_left_iff.mp hn
  have hv := hport.last (meterDocument.take 3) ⟨"net", "PORT", "+443", 5⟩ (meterDocument.drop 4)
    (.integer 443) rfl rfl (by decide) (by decide)
  exact ⟨port, mask, hd, hv.left, congrArg Definition.value (hmask.kept (by decide))⟩

end Registry
end BuildConfig
