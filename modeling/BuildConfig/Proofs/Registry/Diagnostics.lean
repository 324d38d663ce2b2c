import BuildConfig.Proofs.Files.Reading
import BuildConfig.Proofs.Registry.Sources

namespace BuildConfig

-- A warning as it is read: where something was found, and what.
structure Notice where
  place : String
  message : String
  deriving DecidableEq

def Warning.notice (w : Warning) : Notice where
  place   := w.source
  message := w.message

-- What can be found in an entry of a definition document without looking at any other.
def Entry.notices (source : String) (e : Entry) : List Notice :=
  if e.heading = "" then
    [⟨source ++ ":" ++ toString e.line, "key outside of a section: " ++ e.key⟩]
  else if e.key ∉ ["description", "type", "define", "value", "required"] then
    [⟨source ++ ":" ++ e.heading, "unknown key: " ++ e.key⟩]
  else if e.key = "type" ∧
      e.value ∉ ["string", "integer", "hex_integer", "unsigned_integer", "boolean"] then
    [⟨source ++ ":" ++ e.heading ++ ":type", "unable to parse: " ++ e.value⟩]
  else []

-- The sections with a type or a default, in the order of the first entry that gives one.
def Document.touched (document : Document) : List String :=
  sections (document.named.filter fun e => e.key = "type" ∨ e.key = "value")

-- What is found in the default of a key, if there is one and the type of the key rejects it.
def Definition.notice? (source : String) (d : Definition) : Option Notice :=
  (d.defaultText.filter (Value.read? d.type · = none)).map fun text =>
    ⟨source ++ ":" ++ d.name ++ ":value",
      "unable to parse: " ++ text ++ " (expected " ++ d.type.keyword ++ ")"⟩

def Registry.notice? (r : Registry) (source name : String) : Option Notice :=
  (r.find? name).bind (·.notice? source)

-- A file holds a document if its content can be reached, is text and reads as that document.
def FileTree.Holds (tree : FileTree) (path : String) (document : Document) : Prop :=
  ∃ l content text, tree.resolve path = .ok l ∧ tree.node? l = some (.file content) ∧
    String.fromUTF8? content = some text ∧ Document.read text = .ok document

theorem FileTree.holds_iff {tree : FileTree} {path : String} {document : Document} :
    tree.Holds path document ↔ Document.ofContent? (tree.readText path) = some document := by
  rw [Document.ofContent?_eq_some_iff]
  constructor
  · intro ⟨l, content, text, hr, hn, ht, hd⟩
    exact ⟨text, readText_eq_ok_iff.mpr ⟨l, content, hr, hn, ht⟩, hd⟩
  · intro ⟨text, ht, hd⟩
    have ⟨l, content, hr, hn, ht⟩ := readText_eq_ok_iff.mp ht
    exact ⟨l, content, text, hr, hn, ht, hd⟩

theorem Field.ofKeyword?_eq_none_iff {key : String} :
    ofKeyword? key = none ↔ key ∉ ["description", "type", "define", "value", "required"] := by
  change all.find? _ = none ↔ key ∉ all.map keyword
  simp

theorem ValueType.ofKeyword?_eq_none_iff {token : String} :
    ofKeyword? token = none ↔
      token ∉ ["string", "integer", "hex_integer", "unsigned_integer", "boolean"] := by
  change all.find? _ = none ↔ token ∉ all.map keyword
  simp

namespace Definition
variable {d : Definition} {source : String}

theorem notice?_settled : d.settled.notice? source = d.notice? source :=
  rfl

theorem notices_settle :
    (d.settle source).warnings.map (·.notice) = (d.notice? source).toList := by
  rw [settle, notice?]
  cases d.defaultText with
  | none => rfl
  | some text =>
    simp only [assign, Value.coerce, Option.filter_some]
    cases Value.read? d.type text <;> rfl

end Definition

namespace Registry
variable {r : Registry} {source name : String} {names : List String} {s : Declaring} {e : Entry}
variable {document : Document}

theorem notices_declareEntry :
    (declareEntry source s e).warnings.map (·.notice) = e.notices source := by
  rw [declareEntry, Entry.notices]
  by_cases h : e.heading = ""
  case pos =>
    rw [if_pos h, if_pos h]
    rfl
  case neg =>
    rw [if_neg h, if_neg h]
    cases hf : Field.ofKeyword? e.key with
    | none =>
      rw [if_pos (Field.ofKeyword?_eq_none_iff.mp hf)]
      rfl
    | some f =>
      have hn : Field.ofKeyword? e.key ≠ none := by simp [hf]
      have hk : f = .type ↔ e.key = "type" := by
        rw [Field.ofKeyword?_eq_some_iff.mp hf]
        cases f <;> decide
      rw [if_neg (mt Field.ofKeyword?_eq_none_iff.mpr hn)]
      simp only [Reported.warnings_bind, Reported.warnings_warnIf, Reported.warnings_pure,
        List.append_nil, hk, ValueType.ofKeyword?_eq_none_iff]
      split <;> rfl

theorem notices_settleDefault :
    (settleDefault source r name).warnings.map (·.notice) = (r.notice? source name).toList := by
  rw [settleDefault, notice?]
  cases r.find? name with
  | none   => rfl
  | some d =>
    simp only [Reported.warnings_bind, Reported.warnings_pure, List.append_nil]
    exact Definition.notices_settle

-- Reading defaults does not change what is found in them.
theorem notice?_foldl_settle :
    (names.foldl settle r).notice? source = r.notice? source := by
  funext name
  rw [notice?, notice?, find?_foldl_settle]
  split
  case isFalse => rfl
  case isTrue =>
    cases r.find? name with
    | none   => rfl
    | some d => exact Definition.notice?_settled

theorem notices_foldlM_settleDefault :
    (names.foldlM (settleDefault source) r).warnings.map (·.notice) =
      names.filterMap (r.notice? source) := by
  have h (r' : Registry) (name : String) (hr : r'.notice? source = r.notice? source) :
      (settleDefault source r' name).value.notice? source = r.notice? source ∧
        (settleDefault source r' name).warnings.map (·.notice) =
          (r.notice? source name).toList := by
    rw [value_settleDefault, notices_settleDefault, hr]
    exact ⟨(@notice?_foldl_settle r' source [name]).trans hr, rfl⟩
  rw [List.filterMap_eq_flatMap_toList]
  exact Reported.map_warnings_foldlM h rfl

theorem unsettled_eq_touched :
    (document.foldl Declaring.take { registry := r }).unsettled = document.touched := by
  have h : { registry := r : Declaring }.unsettled = [].eraseDups := List.eraseDups_nil.symm
  rw [Declaring.unsettled_foldl_take h, List.nil_append, Document.touched, Document.sections,
    Document.named, List.filter_filter]
  simp only [← Entry.affectsDefault_iff, ← Bool.decide_and, and_comm]

theorem notices_declareDocument :
    let pass := r.declareDocument source document
    pass.warnings.map (·.notice) =
      document.flatMap (·.notices source) ++
        document.touched.filterMap (pass.value.notice? source) := by
  dsimp only
  rw [value_declareDocument]
  dsimp only
  rw [notice?_foldl_settle, declareDocument, Reported.warnings_bind, List.map_append,
    notices_foldlM_settleDefault, Reported.value_foldlM]
  simp only [Declaring.value_declareEntry, unsettled_eq_touched]
  congr 1
  have h (s : Declaring) (e : Entry) (_ : True) :
      True ∧ (declareEntry source s e).warnings.map (·.notice) = e.notices source :=
    ⟨trivial, notices_declareEntry⟩
  exact Reported.map_warnings_foldlM h trivial

-- All that is reported while definitions are taken in. What is found in single entries comes before
-- what is found in defaults, which are looked at once for each section. A file without a document
-- gets one warning and changes nothing.
structure Reports (r : Registry) : Prop where
  document (source : String) (document : Document) :
    let pass := r.declareDocument source document
    pass.warnings.map (·.notice) =
      document.flatMap (·.notices source) ++
        document.touched.filterMap (pass.value.notice? source)
  once (document : Document) : document.touched.Nodup
  used (tree : FileTree) (path : String) (document : Document) : tree.Holds path document →
    let file := r.declareFile path (tree.readText path)
    let pass := r.declareDocument path document
    file.value = (pass.value, true) ∧ file.warnings = pass.warnings
  skipped (tree : FileTree) (path : String) : (∀ document, ¬tree.Holds path document) →
    let file := r.declareFile path (tree.readText path)
    file.value = (r, false) ∧ ∃ w, file.warnings = [w]

-- Whatever a registry has been through, taking in definitions reports all that is wrong with them, in
-- order and nothing else.
theorem reports_declare (r : Registry) : r.Reports where
  document _ _ := notices_declareDocument
  once _ := nodup_eraseDups _
  used tree path document h := by
    dsimp only
    rw [declareFile_of_document path (FileTree.holds_iff.mp h)]
    exact ⟨rfl, Reported.warnings_map⟩
  skipped tree path h := by
    have hn : Document.ofContent? (tree.readText path) = none :=
      Option.eq_none_iff_forall_ne_some.mpr fun document hd => h document (FileTree.holds_iff.mpr hd)
    obtain ⟨w, hw⟩ := declareFile_of_none path hn
    dsimp only
    rw [hw]
    exact ⟨rfl, w, rfl⟩

-- A default from before does not fit the type that it gets, and sections take turns.
def serviceRegistry : Registry where
  definitions := [
    { name := "PORT", define := "PORT", defaultText := some "http",
      assigned := some (.string "http") }]

def serviceDocument : Document := [
  ⟨"", "owner", "operations", 1⟩,
  ⟨"MASK", "value", "0xZ", 3⟩,
  ⟨"PORT", "type", "integer", 5⟩,
  ⟨"PORT", "unit", "none", 6⟩,
  ⟨"MASK", "type", "hex_integer", 8⟩,
  ⟨"HOST", "type", "text", 10⟩]

def brokenTree : FileTree where
  bindings         := [(["site.def"], .file "[PORT".toUTF8)]
  workingDirectory := []

theorem reports_declare_serviceRegistry :
    (serviceRegistry.declareDocument "service.def" serviceDocument).warnings.map (·.notice) = [
      ⟨"service.def:1", "key outside of a section: owner"⟩,
      ⟨"service.def:PORT", "unknown key: unit"⟩,
      ⟨"service.def:HOST:type", "unable to parse: text"⟩,
      ⟨"service.def:MASK:value", "unable to parse: 0xZ (expected hex_integer)"⟩,
      ⟨"service.def:PORT:value", "unable to parse: http (expected integer)"⟩] ∧
    (∀ document, ¬brokenTree.Holds "site.def" document) ∧
    (serviceRegistry.declareFile "site.def" (brokenTree.readText "site.def")).value =
      (serviceRegistry, false) := by
  have hr := reports_declare serviceRegistry
  have hn : Document.ofContent? (brokenTree.readText "site.def") = none := by decide +kernel
  have hb (document : Document) : ¬brokenTree.Holds "site.def" document := by
    rw [FileTree.holds_iff, hn]
    nofun
  exact ⟨(hr.document _ _).trans (by decide), hb, (hr.skipped _ _ hb).left⟩

end Registry
end BuildConfig
