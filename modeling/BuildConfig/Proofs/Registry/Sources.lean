import BuildConfig.Proofs.Registry.Meaning
import BuildConfig.Run

namespace BuildConfig

namespace Document

-- The document in what reading a file gave, if there is one.
def ofContent? : Except FileError String → Option Document
  | .error _ => none
  | .ok text => (read text).toOption

-- The entries below a heading with a name.
def named (document : Document) : Document :=
  document.filter (·.heading ≠ "")

-- The sections of a document in the order of their first mention.
def sections (document : Document) : List String :=
  (document.map (·.heading)).eraseDups

-- The entries of one section, in their order.
def entriesOf (document : Document) (name : String) : List Entry :=
  document.filter (·.heading = name)

-- The texts that a configuration gives for a key, under whatever headings.
def textsFor (document : Document) (key : String) : List String :=
  (document.filter (·.key = key)).map (·.value)

end Document

-- The entries of all definition files that can be used, in the order of the files. An entry above
-- all headings declares nothing.
def declarations (sources : List Source) : Document :=
  Document.named (sources.filterMap fun s => Document.ofContent? s.2).flatten

-- The registry that declarations and a configuration come to.
def Registry.meaning (declared given : Document) : Registry where
  definitions := declared.sections.map fun name =>
    .meaning name (declared.entriesOf name) (given.textsFor name)

namespace Document

variable {document : Document} {name : String}

theorem ofContent?_eq_some_iff {content : Except FileError String} :
    ofContent? content = some document ↔ ∃ text, content = .ok text ∧ read text = .ok document := by
  cases content with
  | error cause => simp [ofContent?]
  | ok text     => cases h : read text <;> simp [ofContent?, h, Except.toOption]

theorem mem_sections_iff : name ∈ document.sections ↔ document.entriesOf name ≠ [] := by
  rw [sections, List.mem_eraseDups, entriesOf, ne_eq, List.filter_eq_nil_iff]
  simp

theorem textsFor_cons {e : Entry} :
    textsFor (e :: document) name =
      if e.key = name then e.value :: document.textsFor name else document.textsFor name := by
  rw [textsFor, List.filter_cons]
  by_cases h : e.key = name <;> simp [textsFor, h]

theorem entriesOf_append_named {declared : Document} :
    (declared ++ document.named).entriesOf name =
      if name = "" then declared.entriesOf name
      else declared.entriesOf name ++ document.entriesOf name := by
  simp only [entriesOf, named, List.filter_append, List.filter_filter]
  split
  case isTrue h =>
    have : document.filter (fun e => e.heading = name && e.heading ≠ "") = [] := by
      simp [h]
    rw [this, List.append_nil]
  case isFalse h =>
    congr 1
    refine List.filter_congr fun e _ => ?_
    by_cases he : e.heading = name <;> simp [he, h]

end Document

theorem declarations_nil : declarations [] = [] :=
  rfl

theorem declarations_cons {s : Source} {sources : List Source} :
    declarations (s :: sources) =
      (Document.ofContent? s.2).elim [] Document.named ++ declarations sources := by
  rw [declarations, List.filterMap_cons]
  cases Document.ofContent? s.2 with
  | none          => rfl
  | some document => exact List.filter_append document _

namespace Registry

variable {declared given document : Document} {name : String}

theorem names_meaning : (meaning declared given).names = declared.sections := by
  rw [names, meaning, List.map_map]
  exact List.map_id' _

theorem find?_meaning :
    (meaning declared given).find? name =
      if name ∈ declared.sections then
        some (.meaning name (declared.entriesOf name) (given.textsFor name))
      else none :=
  find?_mk_map fun _ => rfl

theorem find?_meaning_nil :
    (meaning declared []).find? name = Definition.known name (declared.entriesOf name) := by
  rw [find?_meaning, Definition.known]
  simp only [Document.mem_sections_iff, ne_eq, ite_not]
  rfl

-- Taking in one more document is the same as having had its entries all along.
theorem declareDocument_meaning {source : String} :
    ((meaning declared []).declareDocument source document).value =
      meaning (declared ++ document.named) [] := by
  have hn : ((meaning declared []).declareDocument source document).value.names =
      (declared ++ document.named).sections := by
    rw [names_declareDocument names_meaning, Document.sections, List.map_append, Document.named]
  refine ext_find? (hn ▸ nodup_eraseDups _) ?names fun name => ?find
  case names => rw [hn, names_meaning]
  case find =>
    rw [find?_meaning_nil, Document.entriesOf_append_named]
    by_cases h : name = ""
    case pos => rw [if_pos h, h, find?_declareDocument_empty, find?_meaning_nil]
    case neg =>
      rw [if_neg h, find?_declareDocument h, find?_meaning_nil]
      exact Definition.declare_known

section
variable {r : Registry} {content : Except FileError String}

theorem declareFile_of_document (path : String) (h : Document.ofContent? content = some document) :
    r.declareFile path content = (·, true) <$> r.declareDocument path document := by
  have ⟨text, hc, hd⟩ := Document.ofContent?_eq_some_iff.mp h
  rw [hc, declareFile]
  simp [hd]

theorem declareFile_of_none (path : String) (h : Document.ofContent? content = none) :
    ∃ w, r.declareFile path content = ⟨(r, false), [w]⟩ := by
  cases content with
  | error cause => exact ⟨.unreadableDefinitions path cause, rfl⟩
  | ok text =>
    cases hd : Document.read text with
    | ok document => simp [Document.ofContent?, hd, Except.toOption] at h
    | error e =>
      refine ⟨.malformedDefinitions path e, ?_⟩
      rw [declareFile]
      simp only [hd]
      rfl

theorem value_declareFile {path : String} :
    (r.declareFile path content).value.1 =
      (Document.ofContent? content).elim r fun document =>
        (r.declareDocument path document).value := by
  cases h : Document.ofContent? content with
  | none =>
    obtain ⟨w, hw⟩ := declareFile_of_none path h
    rw [hw]
    rfl
  | some document =>
    rw [declareFile_of_document path h]
    rfl

end

-- The registry in the middle of the definition files is what the files so far come to.
theorem foldl_declareFile {sources : List Source} :
    sources.foldl (fun r s => ((·.1) <$> r.declareFile s.1 s.2).value) (meaning declared []) =
      meaning (declared ++ declarations sources) [] := by
  induction sources generalizing declared with
  | nil => rw [List.foldl_nil, declarations_nil, List.append_nil]
  | cons s sources ih =>
    rw [List.foldl_cons, Reported.value_map, value_declareFile, declarations_cons]
    cases Document.ofContent? s.2 with
    | none => exact ih
    | some document =>
      rw [Option.elim_some, declareDocument_meaning, ih, List.append_assoc]
      rfl

theorem ofSources_eq_meaning {sources : List Source} :
    (ofSources sources).value = meaning (declarations sources) [] := by
  rw [ofSources, Reported.value_foldlM, ← List.nil_append (declarations sources)]
  exact @foldl_declareFile [] sources

end Registry
end BuildConfig
