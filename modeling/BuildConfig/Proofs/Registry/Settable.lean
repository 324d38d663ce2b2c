import BuildConfig.Proofs.Registry.FromText

namespace BuildConfig

namespace Document

-- What may stand at the beginning of a line, in front of a delimiter.
@[mk_iff]
structure FitsAsKey (cs : List Char) : Prop where
  undivided : '=' ∉ cs ∧ ':' ∉ cs
  start     : cs.head? ≠ some '[' ∧ cs.head? ≠ some ';' ∧ cs.head? ≠ some '#'

instance : DecidablePred FitsAsKey :=
  fun cs => decidable_of_iff' _ (fitsAsKey_iff cs)

theorem IsKey.fitsAsKey {cs : List Char} (h : IsKey cs) : FitsAsKey cs :=
  ⟨h.undivided, h.start⟩

-- Most of what makes a key is asked of a heading already.
theorem IsHeading.isKey {cs : List Char} (h : IsHeading cs) (hn : cs ≠ []) (hf : FitsAsKey cs) :
    IsKey cs :=
  ⟨h.oneLine, h.trimmed, hn, hf.undivided, hf.start⟩

end Document

namespace Value

-- An empty value as it is rendered can be given for a key of its type.
theorem isValue_render_empty (type : ValueType) :
    Document.IsValue (empty type).render.toList := by
  cases type <;> decide

theorem exists_read?_render_empty (type : ValueType) :
    ∃ v, read? type (empty type).render = some v := by
  apply Option.isSome_iff_exists.mp
  cases type <;> decide

end Value

namespace Registry

-- What a document was resolved to so far.
def resolving (r : Registry) (source : String) (suppressUndefined : Bool) (document : Document) :
    Resolving :=
  (document.foldlM (resolveEntry source suppressUndefined) { registry := r }).value

-- The document has an entry of that key that is counted as resolved when its turn comes.
def Resolves (r : Registry) (source : String) (suppressUndefined : Bool) (document : Document)
    (name : String) : Prop :=
  ∃ before e after, document = before ++ e :: after ∧ e.key = name ∧
    let s := r.resolving source suppressUndefined before
    (resolveEntry source suppressUndefined s e).value.counts.resolved = s.counts.resolved + 1

variable {r : Registry} {s : Resolving} {e : Entry} {d : Definition} {v : Value}
variable {document : Document} {name source : String} {suppressUndefined : Bool}
variable {history : List Operation}

theorem value_resolveEntry_of_fits (hd : s.registry.find? e.key = some d)
    (hv : Value.read? d.type e.value = some v) :
    (resolveEntry source suppressUndefined s e).value =
      s.stored { d with assigned := some v } := by
  have ha : d.assign e.value = .ok { d with assigned := some v } :=
    Definition.assign_eq_ok_iff.mpr ⟨v, hv, rfl⟩
  rw [resolveEntry, hd]
  dsimp only
  rw [ha]
  rfl

-- A document of one entry that fits assigns that value and no other.
theorem value_resolveDocument_singleton (hk : e.key = name) (hd : r.find? name = some d)
    (hv : Value.read? d.type e.value = some v) :
    (r.resolveDocument source suppressUndefined [e]).value =
      (r.update name fun _ => { d with assigned := some v }, { resolved := 1 }) := by
  cases hk
  have he := @value_resolveEntry_of_fits { registry := r } e d v source suppressUndefined hd hv
  simp only [resolveDocument, Reported.value_bind, Reported.value_foldlM, Reported.value_pure,
    List.foldl_cons, List.foldl_nil, he]
  rw [Resolving.stored, name_of_find? hd]

theorem resolves_singleton (hk : e.key = name) (hd : r.find? name = some d)
    (hv : Value.read? d.type e.value = some v) :
    r.Resolves source suppressUndefined [e] name := by
  cases hk
  refine ⟨[], e, [], rfl, rfl, ?_⟩
  dsimp only
  rw [value_resolveEntry_of_fits hd hv]
  rfl

-- A key that fits in front of a delimiter is set by a text of one line below an empty heading.
theorem exists_read_singleton (h : ∀ o ∈ history, o.FromText) (hd : d ∈ (after history).definitions)
    (hf : Document.FitsAsKey d.name.toList) :
    ∃ text e v, Document.read text = .ok [e] ∧ e.key = d.name ∧
      Value.read? d.type e.value = some v := by
  have hm : d.name ∈ (after history).names := List.mem_map_of_mem hd
  have ⟨hh, hn⟩ := isHeading_of_mem_names h hm
  have ⟨v, hv⟩ := Value.exists_read?_render_empty d.type
  have hn : d.name.toList ≠ [] := mt String.toList_eq_nil_iff.mp hn
  let t : Document.Triple := ⟨"", d.name, (Value.empty d.type).render⟩
  have he : Document.IsHeading t.heading.toList := (by decide : Document.IsHeading [])
  have ht : t.WellFormed := ⟨he, hh.isKey hn hf, Value.isValue_render_empty d.type⟩
  have hr := Document.read_print (List.forall_mem_singleton.mpr ht)
  exact ⟨Document.print [t], t.onLine 2, v, hr, rfl, hv⟩

-- Only what is read in front of a delimiter gets to be resolved.
theorem fitsAsKey_of_resolves {text : String} (hr : Document.read text = .ok document)
    (h : r.Resolves source suppressUndefined document name) :
    Document.FitsAsKey name.toList := by
  have ⟨before, e, after, he, hn, _⟩ := h
  have hm : e ∈ document := he ▸ List.mem_append_right before List.mem_cons_self
  exact hn ▸ (Document.isKey_of_mem hr hm).fitsAsKey

theorem textsFor_eq_nil_of_not_fitsAsKey {text : String} (hr : Document.read text = .ok document)
    (hf : ¬Document.FitsAsKey name.toList) : document.textsFor name = [] := by
  rw [Document.textsFor, List.map_eq_nil_iff, List.filter_eq_nil_iff]
  intro e he hn
  have hn : e.key = name := of_decide_eq_true hn
  exact hf (hn ▸ (Document.isKey_of_mem hr he).fitsAsKey)

-- The keys of a registry that was made from texts are set by configuration texts if and only if they
-- fit in front of a delimiter. A text of one line is then enough, and no text changes other keys.
theorem resolves_iff_fitsAsKey (h : ∀ o ∈ history, o.FromText)
    (hd : d ∈ (after history).definitions) (source : String) (suppressUndefined : Bool) :
    ((∃ text document, Document.read text = .ok document ∧
        (after history).Resolves source suppressUndefined document d.name) ↔
      Document.FitsAsKey d.name.toList) ∧
    (Document.FitsAsKey d.name.toList → ∃ text document v, Document.read text = .ok document ∧
      ((after history).resolveDocument source suppressUndefined document).value =
        ((after history).update d.name fun _ => { d with assigned := some v },
          { resolved := 1 })) ∧
    (¬Document.FitsAsKey d.name.toList → ∀ text document, Document.read text = .ok document →
      ((after history).resolveDocument source suppressUndefined document).value.1.find? d.name =
        some d) := by
  have hs : (after history).find? d.name = some d := find?_of_mem nodup_names_after hd
  refine ⟨⟨?only, ?some⟩, ?one, ?none⟩
  case only =>
    intro ⟨_, _, hr, h⟩
    exact fitsAsKey_of_resolves hr h
  case some =>
    intro hf
    have ⟨text, e, v, hr, hk, hv⟩ := exists_read_singleton h hd hf
    exact ⟨text, [e], hr, resolves_singleton hk hs hv⟩
  case one =>
    intro hf
    have ⟨text, e, v, hr, hk, hv⟩ := exists_read_singleton h hd hf
    exact ⟨text, [e], v, hr, value_resolveDocument_singleton hk hs hv⟩
  case none =>
    intro hf _ _ hr
    rw [find?_resolveDocument, hs, textsFor_eq_nil_of_not_fitsAsKey hr hf]
    rfl

-- A heading can have a byte order mark, a bracket or a comment sign in it.
def markedDeclared : String :=
  "[\ufeffport ;1]\ntype = hex_integer\n[[host]\nvalue = a\n"

def markedDocument : Document := [
  ⟨"\ufeffport ;1", "type", "hex_integer", 2⟩,
  ⟨"[host", "value", "a", 4⟩]

def markedHistory : List Operation :=
  [.declareDocument "site.def" markedDocument]

theorem resolves_iff_fitsAsKey_markedHistory :
    (∃ text document, Document.read text = .ok document ∧
      (after markedHistory).Resolves "site.conf" true document "\ufeffport ;1") ∧
    ¬∃ text document, Document.read text = .ok document ∧
      (after markedHistory).Resolves "site.conf" true document "[host" := by
  have hd : Document.read markedDeclared = .ok markedDocument := by decide +kernel
  have h : ∀ o ∈ markedHistory, o.FromText := List.forall_mem_singleton.mpr (.declareDocument hd)
  let port : Definition := { name := "\ufeffport ;1", type := .hexInteger }
  let host : Definition :=
    { name := "[host", defaultText := some "a", assigned := some (.string "a") }
  have hp : port ∈ (after markedHistory).definitions := by decide +kernel
  have hh : host ∈ (after markedHistory).definitions := by decide +kernel
  have hs := (resolves_iff_fitsAsKey h hp "site.conf" true).left
  have hn := (resolves_iff_fitsAsKey h hh "site.conf" true).left
  exact ⟨hs.mpr (by decide), mt hn.mp (by decide)⟩

end Registry
end BuildConfig
