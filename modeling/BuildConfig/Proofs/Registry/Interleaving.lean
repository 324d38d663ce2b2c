import BuildConfig.Proofs.Registry.Section

namespace BuildConfig

-- Documents that agree on what each section says for each key. Entries of different sections, or
-- for different keys, may be mixed in any way.
def Document.Agree (document₁ document₂ : Document) : Prop :=
  ∀ heading key, heading ≠ "" →
    textsFor (document₁.entriesOf heading) key = textsFor (document₂.entriesOf heading) key

section
variable {document₁ document₂ : Document}

-- Only the sections and keys that occur have to be compared.
theorem Document.agree_iff :
    document₁.Agree document₂ ↔ ∀ e ∈ document₁ ++ document₂, e.heading ≠ "" →
      textsFor (document₁.entriesOf e.heading) e.key =
        textsFor (document₂.entriesOf e.heading) e.key := by
  refine ⟨fun h e _ => h e.heading e.key, fun h heading key hn => ?_⟩
  by_cases hm : ∃ e ∈ document₁ ++ document₂, e.heading = heading ∧ e.key = key
  case pos =>
    obtain ⟨e, he, rfl, rfl⟩ := hm
    exact h e he hn
  case neg =>
    have hk {document : Document} (hd : ∀ e ∈ document, e ∈ document₁ ++ document₂) :
        textsFor (document.entriesOf heading) key = [] := by
      refine List.eq_nil_iff_forall_not_mem.mpr fun text ht => ?_
      obtain ⟨e, he, hk, _⟩ := mem_textsFor_iff.mp ht
      obtain ⟨he, hh⟩ := List.mem_filter.mp he
      exact hm ⟨e, hd e he, by simpa using hh, hk⟩
    rw [hk fun _ => List.mem_append_left _, hk fun _ => List.mem_append_right _]

instance : Decidable (document₁.Agree document₂) :=
  decidable_of_iff _ Document.agree_iff.symm

theorem Document.Agree.entriesOf_named (h : document₁.Agree document₂) (name key : String) :
    textsFor (document₁.named.entriesOf name) key =
      textsFor (document₂.named.entriesOf name) key := by
  rw [Document.entriesOf_named, Document.entriesOf_named]
  split
  case isTrue     => rfl
  case isFalse hn => exact h name key hn

end

-- The sections that a registry does not have yet, in the order of their first mention.
def Registry.newSections (r : Registry) (document : Document) : List String :=
  Document.sections (document.filter fun e => e.heading ≠ "" ∧ e.heading ∉ r.names)

namespace Definition
variable {d : Definition} {d? : Option Definition} {name : String} {es₁ es₂ : List Entry}

section
variable (h : ∀ key, Document.textsFor es₁ key = Document.textsFor es₂ key)
include h

theorem foldl_take_congr : es₁.foldl take d = es₂.foldl take d := by
  have hl (key : String) : lastValue? es₁ key = lastValue? es₂ key := by
    rw [lastValue?_eq_getLast?, h, lastValue?_eq_getLast?]
  simp only [foldl_take_eq, hl, h]

theorem redeclare_congr : d.redeclare es₁ = d.redeclare es₂ := by
  have ha : es₁.any (·.affectsDefault) = es₂.any (·.affectsDefault) := by
    rw [Bool.eq_iff_iff, any_affectsDefault_iff, any_affectsDefault_iff, h, h]
  rw [redeclare, redeclare, ha, foldl_take_congr h]

theorem declare_congr : declare name d? es₁ = declare name d? es₂ := by
  have hn : es₁ = [] ↔ es₂ = [] := by simp only [eq_nil_iff_textsFor, h]
  by_cases h₁ : es₁ = []
  case pos => rw [h₁, hn.mp h₁]
  case neg => rw [declare_of_ne_nil h₁, declare_of_ne_nil (mt hn.mpr h₁), redeclare_congr h]

end
end Definition

namespace Registry
variable {r : Registry} {name source source₁ source₂ : String} {mentioned : List String}
variable {document document₁ document₂ : Document}

-- Taking in a document appends the new sections.
theorem names_declareDocument_eq_append (h : r.names = mentioned.eraseDups) :
    (r.declareDocument source document).value.names = r.names ++ r.newSections document := by
  rw [names_declareDocument h, List.eraseDups_append, ← h, newSections, Document.sections,
    List.removeAll, List.filter_map, List.filter_filter]
  congr 3
  refine List.filter_congr fun e _ => ?_
  simp [h, List.mem_eraseDups, Bool.and_comm]

theorem find?_declareDocument_congr (h : document₁.Agree document₂) :
    (r.declareDocument source₁ document₁).value.find? name =
      (r.declareDocument source₂ document₂).value.find? name := by
  rw [find?_declareDocument_eq, find?_declareDocument_eq]
  exact Definition.declare_congr (h.entriesOf_named name)

-- The order of entries does not matter as long as each key of a section gets its texts in order.
-- It shows only in the order in which new sections are added.
theorem declareDocument_interleave (history : List Operation) {document₁ document₂ : Document}
    (source₁ source₂ : String) (h : document₁.Agree document₂) :
    let r := after history
    let r₁ := (r.declareDocument source₁ document₁).value
    let r₂ := (r.declareDocument source₂ document₂).value
    (∀ name, r₁.find? name = r₂.find? name) ∧
      (r.newSections document₁ = r.newSections document₂ → r₁ = r₂) := by
  intro r r₁ r₂
  have hf : ∀ name, r₁.find? name = r₂.find? name := fun _ => find?_declareDocument_congr h
  refine ⟨hf, fun hs => ext_find? (nodup_names_declareDocument names_after) ?names hf⟩
  case names =>
    rw [names_declareDocument_eq_append names_after, names_declareDocument_eq_append names_after,
      hs]

-- A key with a default and a given value and a key with a value alone, before a document that moves
-- the type of the first one to and fro.
def flagHistory : List Operation := [
  .declareDocument "early.def" [⟨"FLAG", "value", "1", 2⟩, ⟨"FLAG", "type", "integer", 3⟩],
  .resolveDocument "site.conf" false [⟨"", "FLAG", "7", 1⟩],
  .declare "NAME",
  .edit "NAME" (.value "unnamed")]

def flagFirst : Document := [
  ⟨"FLAG", "type", "boolean", 2⟩,
  ⟨"FLAG", "type", "integer", 3⟩,
  ⟨"FLAG", "define", "FLAG", 4⟩,
  ⟨"HOST", "value", "a", 6⟩,
  ⟨"NAME", "define", "NAME", 8⟩,
  ⟨"HOST", "type", "text", 10⟩]

def hostFirst : Document := [
  ⟨"", "value", "lost", 1⟩,
  ⟨"HOST", "type", "text", 3⟩,
  ⟨"HOST", "value", "a", 4⟩,
  ⟨"NAME", "define", "NAME", 6⟩,
  ⟨"FLAG", "define", "FLAG", 8⟩,
  ⟨"FLAG", "type", "boolean", 9⟩,
  ⟨"FLAG", "type", "integer", 10⟩]

theorem declareDocument_interleave_flagHistory :
    flagFirst.Agree hostFirst ∧
      (after flagHistory).newSections flagFirst = (after flagHistory).newSections hostFirst ∧
      ((after flagHistory).declareDocument "a.def" flagFirst).value =
        ((after flagHistory).declareDocument "b.def" hostFirst).value := by
  have ha : flagFirst.Agree hostFirst := by decide +kernel
  have hs : (after flagHistory).newSections flagFirst =
      (after flagHistory).newSections hostFirst := by
    decide +kernel
  exact ⟨ha, hs, (declareDocument_interleave flagHistory "a.def" "b.def" ha).right hs⟩

end Registry
end BuildConfig
