import BuildConfig.Proofs.Registry.Section

namespace BuildConfig
namespace Definition
variable {d : Definition} {d? : Option Definition} {name : String} {es es₁ es₂ : List Entry}

-- Entries do the same to a key whatever was assigned to it, and they keep that or discard it.
theorem foldl_take_with_assigned {assigned : Option Value} :
    es.foldl take { d with assigned } =
      { es.foldl take d with
        assigned :=
          if ∀ token ∈ Document.textsFor es "type", ValueType.ofKeyword token = d.type
          then assigned else none } := by
  rw [foldl_take_eq, foldl_take_eq]

theorem settled_with_assigned {assigned : Option Value} (h : d.defaultText ≠ none) :
    settled { d with assigned } = d.settled := by
  obtain ⟨text, h⟩ := Option.ne_none_iff_exists'.mp h
  simp only [settled, h, Option.elim_some]

theorem settled_eq_self (h : d.defaultText = none) : d.settled = d := by
  ext1 <;> simp [settled, h]

-- Reading a default in between makes no difference if a default is read at the end.
theorem settled_foldl_take_settled :
    (es.foldl take d.settled).settled = (es.foldl take d).settled := by
  by_cases h : d.defaultText = none
  case pos => rw [settled_eq_self h]
  case neg =>
    have hd : (es.foldl take d).defaultText ≠ none := by
      rw [defaultText_foldl_take]
      cases lastValue? es "value" <;> simp [h]
    calc (es.foldl take d.settled).settled
      _ = settled { es.foldl take d with assigned := _ } :=
        congrArg settled foldl_take_with_assigned
      _ = (es.foldl take d).settled := settled_with_assigned hd

section
variable (h : es.any (·.affectsDefault) = false)
include h

theorem textsFor_of_not_any :
    Document.textsFor es "type" = [] ∧ Document.textsFor es "value" = [] := by
  have := mt any_affectsDefault_iff.mpr (Bool.eq_false_iff.mp h)
  simpa only [not_or, not_not] using this

-- Entries that say nothing about type and default may come before or after the default is read.
theorem foldl_take_settled_of_not_any : es.foldl take d.settled = (es.foldl take d).settled := by
  have ⟨ht, hv⟩ := textsFor_of_not_any h
  have hd : (es.foldl take d).defaultText = d.defaultText := by
    rw [defaultText_foldl_take, lastValue?_eq_getLast?, hv]
    rfl
  have hy : (es.foldl take d).type = d.type := by
    rw [type_foldl_take, lastValue?_eq_getLast?, ht]
    rfl
  have hs : es.foldl take d.settled = { es.foldl take d with assigned := d.settled.assigned } := by
    refine foldl_take_with_assigned.trans ?_
    rw [ht, if_pos fun _ hm => nomatch hm]
    rfl
  rw [hs]
  ext1 <;> try rfl
  case assigned =>
    change d.settled.assigned = (es.foldl take d).settled.assigned
    simp only [settled, hd, hy, assigned_foldl_take_of_not_any h]

end

theorem redeclare_redeclare : (d.redeclare es₁).redeclare es₂ = d.redeclare (es₁ ++ es₂) := by
  simp only [redeclare, List.any_append, List.foldl_append]
  cases h₁ : es₁.any (·.affectsDefault) <;> cases h₂ : es₂.any (·.affectsDefault)
  case false.false => rfl
  case false.true  => rfl
  case true.false  => exact foldl_take_settled_of_not_any h₂
  case true.true   => exact settled_foldl_take_settled

-- The second time entries say nothing new.
theorem foldl_take_foldl_take : es.foldl take (es.foldl take d) = es.foldl take d := by
  have hr {α β : Type} {o : Option α} {f : α → β} {b : β} : o.elim (o.elim b f) f = o.elim b f := by
    cases o <;> rfl
  ext1
  case name        => exact name_foldl_take
  case description => rw [description_foldl_take, description_foldl_take, hr]
  case define      => rw [define_foldl_take, define_foldl_take, hr]
  case required    => rw [required_foldl_take, required_foldl_take, hr]
  case defaultText => rw [defaultText_foldl_take, defaultText_foldl_take, hr]
  case type        => rw [type_foldl_take, type_foldl_take, hr]
  case assigned    =>
    rw [assigned_foldl_take_eq, assigned_foldl_take_eq]
    by_cases h : ∀ token ∈ Document.textsFor es "type", ValueType.ofKeyword token = d.type
    case neg => simp only [h, if_false, ite_self]
    case pos =>
      have hy : (es.foldl take d).type = d.type := by
        rw [type_foldl_take, lastValue?_eq_getLast?]
        cases hl : (Document.textsFor es "type").getLast? with
        | none       => rfl
        | some token => exact h token (List.mem_of_getLast? hl)
      rw [hy, if_pos h, if_pos h]

theorem redeclare_append_self : d.redeclare (es ++ es) = d.redeclare es := by
  simp only [redeclare, List.any_append, List.foldl_append, foldl_take_foldl_take, Bool.or_self]

theorem declare_declare :
    declare name (declare name d? es₁) es₂ = declare name d? (es₁ ++ es₂) := by
  by_cases h₁ : es₁ = []
  case pos => rw [h₁, declare_nil, List.nil_append]
  by_cases h₂ : es₂ = []
  case pos => rw [h₂, declare_nil, List.append_nil]
  case neg =>
    have h : es₁ ++ es₂ ≠ [] := List.append_ne_nil_of_left_ne_nil h₁ es₂
    rw [declare_of_ne_nil h₂, declare_of_ne_nil h₁, declare_of_ne_nil h, Option.getD_some,
      redeclare_redeclare]

theorem declare_append_self : declare name d? (es ++ es) = declare name d? es := by
  by_cases h : es = []
  case pos => rw [h, List.append_nil]
  case neg =>
    rw [declare_of_ne_nil (List.append_ne_nil_of_left_ne_nil h es), declare_of_ne_nil h,
      redeclare_append_self]

end Definition

theorem Document.entriesOf_named_append {document₁ document₂ : Document} {name : String} :
    (document₁ ++ document₂).named.entriesOf name =
      document₁.named.entriesOf name ++ document₂.named.entriesOf name := by
  rw [named, named, named, List.filter_append]
  exact List.filter_append _ _

namespace Registry
variable {r : Registry} {name source source₁ source₂ : String} {mentioned : List String}
variable {document document₁ document₂ : Document}

theorem eraseDups_append_self {names again : List String} :
    (names ++ again ++ again).eraseDups = (names ++ again).eraseDups := by
  have : again.removeAll (names ++ again) = [] :=
    List.filter_eq_nil_iff.mpr fun name hn => by simp [hn]
  rw [List.eraseDups_append, this, List.eraseDups_nil, List.append_nil]

-- Two documents in a row are as good as one document with the entries of both.
theorem declareDocument_declareDocument (h : r.names = mentioned.eraseDups) :
    ((r.declareDocument source₁ document₁).value.declareDocument source₂ document₂).value =
      (r.declareDocument source (document₁ ++ document₂)).value := by
  refine Eq.symm (ext_find? (nodup_names_declareDocument h) ?names fun _ => ?find)
  case names =>
    rw [names_declareDocument h, names_declareDocument (names_declareDocument h),
      List.append_assoc, List.filter_append, List.map_append]
  case find =>
    simp only [find?_declareDocument_eq, Document.entriesOf_named_append,
      Definition.declare_declare]

-- What a document says twice is as good as said once.
theorem declareDocument_append_self (h : r.names = mentioned.eraseDups) :
    (r.declareDocument source₁ (document ++ document)).value =
      (r.declareDocument source₂ document).value := by
  refine ext_find? (nodup_names_declareDocument h) ?names fun _ => ?find
  case names =>
    rw [names_declareDocument h, names_declareDocument h, List.filter_append, List.map_append,
      ← List.append_assoc, eraseDups_append_self]
  case find =>
    simp only [find?_declareDocument_eq, Document.entriesOf_named_append,
      Definition.declare_append_self]

-- Neither the split of declarations into documents matters nor that a document comes again.
theorem declareDocument_split (history : List Operation) (source₁ source₂ source : String) :
    let r := after history
    (∀ document₁ document₂,
      ((r.declareDocument source₁ document₁).value.declareDocument source₂ document₂).value =
        (r.declareDocument source (document₁ ++ document₂)).value) ∧
    ∀ document,
      ((r.declareDocument source₁ document).value.declareDocument source₂ document).value =
        (r.declareDocument source document).value := by
  intro r
  have hs (source : String) (document₁ document₂ : Document) :
      ((r.declareDocument source₁ document₁).value.declareDocument source₂ document₂).value =
        (r.declareDocument source (document₁ ++ document₂)).value :=
    declareDocument_declareDocument names_after
  have ha (document : Document) :
      (r.declareDocument source (document ++ document)).value =
        (r.declareDocument source document).value :=
    declareDocument_append_self names_after
  exact ⟨hs source, fun document => (hs source document document).trans (ha document)⟩

end Registry
end BuildConfig
