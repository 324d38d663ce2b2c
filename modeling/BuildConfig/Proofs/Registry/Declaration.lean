import BuildConfig.Proofs.Registry.View
import BuildConfig.Registry.Declaration

namespace BuildConfig

-- Whether the default of a key has to be read again after an entry about it.
def Entry.affectsDefault (e : Entry) : Bool :=
  (Field.ofKeyword? e.key).any (·.affectsDefault)

namespace Definition

-- Gives the field that an entry names, if it names one.
def take (d : Definition) (e : Entry) : Definition :=
  match Field.ofKeyword? e.key with
  | none   => d
  | some f => d.give e.value f

-- What a definition is after an entry of its section, also if it was not there before.
def mention (name : String) (d? : Option Definition) (e : Entry) : Option Definition :=
  some ((d?.getD { name := name }).take e)

-- A definition with its default read, whatever it was assigned before.
def settled (d : Definition) : Definition :=
  { d with assigned := d.defaultText.elim d.assigned (Value.read? d.type) }

theorem name_take {d : Definition} {e : Entry} : (d.take e).name = d.name := by
  rw [take]
  split
  · rfl
  · exact name_give

theorem name_settled {d : Definition} : d.settled.name = d.name :=
  rfl

theorem value_settle {d : Definition} {source : String} : (d.settle source).value = d.settled := by
  obtain ⟨_, _, _, _, defaultText, type, _⟩ := d
  cases defaultText with
  | none => rfl
  | some text =>
    simp only [settle, settled, assign, Value.coerce, Option.elim_some]
    cases Value.read? type text <;> rfl

theorem settled_settled {d : Definition} : d.settled.settled = d.settled := by
  simp only [settled]
  cases d.defaultText <;> rfl

end Definition

namespace Registry
namespace Declaring

-- The state after an entry, without what is reported about it.
def take (s : Declaring) (e : Entry) : Declaring :=
  if e.heading = "" then s
  else
    match Field.ofKeyword? e.key with
    | none   => s.mention e.heading
    | some f => (s.mention e.heading).give e.heading e.value f

variable {s : Declaring} {e : Entry} {es : List Entry} {name : String}

theorem value_declareEntry {source : String} : (declareEntry source s e).value = s.take e := by
  rw [declareEntry, take]
  by_cases h : e.heading = ""
  case pos => simp [h]
  case neg => cases hf : Field.ofKeyword? e.key <;> simp [h]

theorem names_take (h : e.heading ≠ "") :
    (s.take e).registry.names = (s.registry.declare e.heading).names := by
  rw [take, if_neg h]
  cases Field.ofKeyword? e.key with
  | none => rfl
  | some f => exact names_update fun d hd => Definition.name_give.trans hd

theorem find?_take_self (h : e.heading ≠ "") :
    (s.take e).registry.find? e.heading =
      Definition.mention e.heading (s.registry.find? e.heading) e := by
  rw [take, if_neg h, Definition.mention, Definition.take]
  cases Field.ofKeyword? e.key with
  | none => exact find?_declare_self
  | some f =>
    change ((s.registry.declare e.heading).update e.heading _).find? e.heading = _
    rw [find?_update_self fun d hd => Definition.name_give.trans hd, find?_declare_self]
    rfl

theorem find?_take_of_ne (h : e.heading ≠ name) :
    (s.take e).registry.find? name = s.registry.find? name := by
  rw [take]
  split
  case isTrue => rfl
  case isFalse =>
    cases Field.ofKeyword? e.key with
    | none => exact find?_declare_of_ne h.symm
    | some f =>
      change ((s.registry.declare e.heading).update e.heading _).find? name = _
      rw [find?_update_of_ne (fun d hd => Definition.name_give.trans hd) h.symm]
      exact find?_declare_of_ne h.symm

theorem unsettled_take_of_not (h : ¬(e.heading ≠ "" ∧ e.affectsDefault)) :
    (s.take e).unsettled = s.unsettled := by
  rw [take]
  split
  case isTrue => rfl
  case isFalse hn =>
    have ha := not_and.mp h hn
    rw [Entry.affectsDefault] at ha
    cases hf : Field.ofKeyword? e.key with
    | none => rfl
    | some f =>
      simp only [hf, Option.any_some] at ha
      exact if_neg fun hg => ha hg.left

theorem unsettled_take (hn : e.heading ≠ "") (ha : e.affectsDefault) :
    (s.take e).unsettled =
      if e.heading ∈ s.unsettled then s.unsettled else s.unsettled ++ [e.heading] := by
  rw [Entry.affectsDefault, Option.any_eq_true] at ha
  obtain ⟨f, hf, ha⟩ := ha
  rw [take, if_neg hn, hf]
  simp only [give, mention, ha, true_and, ite_not]

-- The keys whose default is to be read come in the order in which an entry first asks for it.
theorem unsettled_foldl_take {touched : List String} (h : s.unsettled = touched.eraseDups) :
    (es.foldl take s).unsettled =
      (touched ++ (es.filter fun e => e.heading ≠ "" ∧ e.affectsDefault).map
        (·.heading)).eraseDups := by
  induction es generalizing s touched with
  | nil => simpa using h
  | cons e es ih =>
    rw [List.foldl_cons, List.filter_cons]
    by_cases he : e.heading ≠ "" ∧ e.affectsDefault
    case pos =>
      have ht : (s.take e).unsettled = (touched ++ [e.heading]).eraseDups := by
        rw [unsettled_take he.left he.right, h, eraseDups_append_singleton]
        simp only [List.mem_eraseDups]
      simp [ih ht, he]
    case neg => rw [ih ((unsettled_take_of_not he).trans h), if_neg (by simpa using he)]

-- What the entries of a document do to the key of one section: only those of that section count.
theorem find?_foldl_take (hn : name ≠ "") :
    (es.foldl take s).registry.find? name =
      (es.filter (·.heading = name)).foldl (Definition.mention name) (s.registry.find? name) := by
  induction es generalizing s with
  | nil => rfl
  | cons e es ih =>
    rw [List.foldl_cons, ih, List.filter_cons]
    by_cases h : e.heading = name
    case pos =>
      subst h
      simp [find?_take_self hn]
    case neg => simp [find?_take_of_ne h, h]

theorem find?_foldl_take_empty : (es.foldl take s).registry.find? "" = s.registry.find? "" := by
  induction es generalizing s with
  | nil => rfl
  | cons e es ih =>
    rw [List.foldl_cons, ih]
    by_cases h : e.heading = ""
    case pos => rw [take, if_pos h]
    case neg => exact find?_take_of_ne h

theorem mem_unsettled_foldl_take {r : Registry} :
    name ∈ (es.foldl take { registry := r }).unsettled ↔
      name ≠ "" ∧ (es.filter (·.heading = name)).any (·.affectsDefault) := by
  have h : { registry := r : Declaring }.unsettled = [].eraseDups := List.eraseDups_nil.symm
  rw [unsettled_foldl_take h, List.nil_append, List.mem_eraseDups]
  simp only [List.mem_map, List.mem_filter, List.any_eq_true, decide_eq_true_eq]
  constructor
  · rintro ⟨e, ⟨he, hn, ha⟩, rfl⟩
    exact ⟨hn, e, ⟨he, rfl⟩, ha⟩
  · rintro ⟨hn, e, ⟨he, rfl⟩, ha⟩
    exact ⟨e, ⟨he, hn, ha⟩, rfl⟩

theorem names_foldl_take {mentioned : List String} (h : s.registry.names = mentioned.eraseDups) :
    (es.foldl take s).registry.names =
      (mentioned ++ (es.filter (·.heading ≠ "")).map (·.heading)).eraseDups := by
  induction es generalizing s mentioned with
  | nil => simpa using h
  | cons e es ih =>
    rw [List.foldl_cons, List.filter_cons]
    by_cases he : e.heading = ""
    case pos =>
      rw [take, if_pos he, ih h]
      simp [he]
    case neg =>
      rw [ih ((names_take he).trans (names_declare_eraseDups h))]
      simp [he]

end Declaring

variable {r : Registry} {name : String} {names : List String}

-- Reads the default of one key again.
def settle (r : Registry) (name : String) : Registry :=
  match r.find? name with
  | none   => r
  | some d => r.update name fun _ => d.settled

theorem value_settleDefault {source : String} :
    (settleDefault source r name).value = r.settle name := by
  rw [settleDefault, settle]
  cases r.find? name with
  | none => rfl
  | some d => simp [Definition.value_settle]

theorem names_settle : (r.settle name).names = r.names := by
  rw [settle]
  split
  case h_1 => rfl
  case h_2 d hd => exact names_update fun _ _ => Definition.name_settled.trans (name_of_find? hd)

theorem find?_settle_self : (r.settle name).find? name = (r.find? name).map (·.settled) := by
  rw [settle]
  cases hd : r.find? name with
  | none => exact hd
  | some d =>
    dsimp only
    rw [find?_update_self fun _ _ => Definition.name_settled.trans (name_of_find? hd), hd]
    rfl

theorem find?_settle_of_ne {other : String} (h : other ≠ name) :
    (r.settle name).find? other = r.find? other := by
  rw [settle]
  split
  case h_1 => rfl
  case h_2 d hd =>
    exact find?_update_of_ne (fun _ _ => Definition.name_settled.trans (name_of_find? hd)) h

theorem names_foldl_settle : (names.foldl settle r).names = r.names := by
  induction names generalizing r with
  | nil => rfl
  | cons name names ih => rw [List.foldl_cons, ih, names_settle]

theorem find?_foldl_settle :
    (names.foldl settle r).find? name =
      if name ∈ names then (r.find? name).map (·.settled) else r.find? name := by
  induction names generalizing r with
  | nil => rfl
  | cons other names ih =>
    rw [List.foldl_cons, ih]
    by_cases h : name = other
    case pos =>
      subst h
      rw [find?_settle_self]
      simp [Definition.settled_settled, Function.comp_def]
    case neg => simp [find?_settle_of_ne h, h]

theorem value_declareDocument {source : String} {document : Document} :
    (r.declareDocument source document).value =
      let s := document.foldl Declaring.take { registry := r }
      s.unsettled.foldl settle s.registry := by
  simp only [declareDocument, Reported.value_bind, Reported.value_foldlM,
    Declaring.value_declareEntry, value_settleDefault]

end Registry

-- What the entries of one section in a document do to its key.
def Definition.declare (name : String) (d? : Option Definition) (es : List Entry) :
    Option Definition :=
  let taken := es.foldl (mention name) d?
  if es.any (·.affectsDefault) then taken.map (·.settled) else taken

namespace Registry

variable {r : Registry} {name source : String} {document : Document}

theorem find?_declareDocument (h : name ≠ "") :
    (r.declareDocument source document).value.find? name =
      Definition.declare name (r.find? name) (document.filter (·.heading = name)) := by
  rw [value_declareDocument]
  dsimp only
  rw [find?_foldl_settle, Declaring.find?_foldl_take h, Definition.declare]
  simp [Declaring.mem_unsettled_foldl_take, h]

theorem find?_declareDocument_empty :
    (r.declareDocument source document).value.find? "" = r.find? "" := by
  rw [value_declareDocument]
  dsimp only
  rw [find?_foldl_settle, Declaring.find?_foldl_take_empty, if_neg]
  simp [Declaring.mem_unsettled_foldl_take]

theorem names_declareDocument {mentioned : List String} (h : r.names = mentioned.eraseDups) :
    (r.declareDocument source document).value.names =
      (mentioned ++ (document.filter (·.heading ≠ "")).map (·.heading)).eraseDups := by
  rw [value_declareDocument]
  exact names_foldl_settle.trans (Declaring.names_foldl_take h)

end Registry
end BuildConfig
