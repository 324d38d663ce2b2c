import BuildConfig.Proofs.Document.Scope

namespace BuildConfig
namespace Document

open Text

variable {ls : List (List Char)} {i : Nat}

-- Lines that are cut at their ends are read as they stand.
theorem Line.ofChars_eq {cs : List Char} (he : trimEnd cs = cs) :
    Line.ofChars cs =
      if isIgnorable cs then .ignorable else .text (isIndented cs) (trimStart cs) := by
  rw [Line.ofChars, isIgnorable]
  rw [trim_eq_trimStart_trimEnd, he]
  cases trimStart cs with
  | nil => rfl
  | cons c rest =>
    by_cases h : c = ';' ∨ c = '#'
    case pos => rcases h with rfl | rfl <;> simp
    case neg =>
      have ⟨h₁, h₂⟩ := not_or.mp h
      simp [h₁, h₂, isIndented]

namespace Scope

variable {s : Scope} {number : Nat} {indented : Bool} {body : List Char}

theorem read_of_pending {key : String} (h : s.pending = some key) :
    s.read number (.text true body) = .ok (s, [⟨s.heading, key, valueText body, number⟩]) := by
  simp only [read, h]

theorem read_of_fault {f : Fault} (h : ¬(indented ∧ s.pending.isSome))
    (hb : Statement.ofBody body = .error f) :
    s.read number (.text indented body) = .error ⟨number, f⟩ := by
  cases hi : indented <;> cases hp : s.pending <;> simp_all [read]

theorem read_of_heading {name : String} (h : ¬(indented ∧ s.pending.isSome))
    (hb : Statement.ofBody body = .ok (.heading name)) :
    s.read number (.text indented body) = .ok ({ heading := name }, []) := by
  cases hi : indented <;> cases hp : s.pending <;> simp_all [read]

theorem read_of_pair {key value : String} (h : ¬(indented ∧ s.pending.isSome))
    (hb : Statement.ofBody body = .ok (.pair key value)) :
    s.read number (.text indented body) =
      .ok ({ s with pending := some key }, [⟨s.heading, key, value, number⟩]) := by
  cases hi : indented <;> cases hp : s.pending <;> simp_all [read]

end Scope

theorem not_faulty_of_role {f : Fault} (hh : role ls i ≠ .heading) (hp : role ls i ≠ .pair) :
    ¬Faulty ls i f := by
  rintro (h | h | h) <;> contradiction

theorem not_faulty_of_heading {inner after : List Char} {f : Fault} (hr : role ls i = .heading)
    (hs : SplitsAt (· = ']') (trimStart (lineAt ls i)).tail inner after) : ¬Faulty ls i f := by
  rintro (⟨_, hc⟩ | ⟨h, _⟩ | ⟨h, _⟩)
  case unterminatedHeading =>
    have ⟨c, hm, hb⟩ := hs.exists_mem
    have : c = ']' := by simpa using hb
    exact hc (this ▸ hm)
  all_goals simp [hr] at h

theorem not_faulty_of_pair {before after : List Char} {f : Fault} (hr : role ls i = .pair)
    (hs : SplitsAt isDelimiter (trimStart (lineAt ls i)) before after) (hk : trim before ≠ []) :
    ¬Faulty ls i f := by
  rintro (⟨h, _⟩ | ⟨_, hd⟩ | ⟨_, hs', hb⟩)
  case unterminatedHeading => simp [hr] at h
  case missingDelimiter =>
    have ⟨c, hm, hc⟩ := hs.exists_mem
    simp [hd c hm] at hc
  case emptyKey =>
    obtain ⟨rfl, _⟩ := hs.unique hs'
    exact hk (trim_eq_nil_iff.mpr hb)

theorem Faulty.unique {f₁ f₂ : Fault} (h₁ : Faulty ls i f₁) (h₂ : Faulty ls i f₂) : f₁ = f₂ := by
  have apart {before after : List Char}
      (hs : SplitsAt isDelimiter (trimStart (lineAt ls i)) before after)
      (hd : ∀ c ∈ trimStart (lineAt ls i), isDelimiter c = false) : False := by
    have ⟨c, hm, hc⟩ := hs.exists_mem
    simp [hd c hm] at hc
  cases h₁ <;> cases h₂ <;> simp_all

-- What reading one line can come to.
inductive Step (ls : List (List Char)) (i : Nat) : Except Error (Scope × Document) → Prop
  | fault {f} (h : Faulty ls i f) : Step ls i (.error ⟨i + 1, f⟩)
  | entries {s document} (hf : ∀ f, ¬Faulty ls i f) (hs : Scope.At ls (i + 1) s)
    (hn : document.map (·.line) = if (role ls i).givesEntry then [i + 1] else [])
    (hg : ∀ e ∈ document, Gives ls e) : Step ls i (.ok (s, document))

namespace Scope.At

variable {s : Scope}

theorem step_ignorable (h : s.At ls i) (hr : role ls i = .ignorable) :
    Step ls i (s.read (i + 1) .ignorable) :=
  have hh : role ls i ≠ .heading := by simp [hr]
  have hp : role ls i ≠ .pair := by simp [hr]
  .entries (fun _ => not_faulty_of_role hh hp) (h.succ hh hp)
    (by simp [hr, Role.givesEntry]) (by simp)

theorem step_continuation (h : s.At ls i) (hr : role ls i = .continuation) :
    Step ls i (s.read (i + 1) (.text (isIndented (lineAt ls i)) (trimStart (lineAt ls i)))) := by
  have hh : role ls i ≠ .heading := by simp [hr]
  have hp : role ls i ≠ .pair := by simp [hr]
  have ⟨_, hi, he⟩ := role_eq_continuation_iff.mp hr
  have hk := h.pending
  cases hs : s.pending <;> rw [hs] at hk <;> cases hk
  case none hn => contradiction
  case some hj ha =>
    rw [hi, read_of_pending hs]
    refine .entries (fun _ => not_faulty_of_role hh hp) (h.succ hh hp)
      (by simp [hr, Role.givesEntry]) ?_
    exact List.forall_mem_singleton.mpr <|
      .continuation hr hj ha h.heading ⟨_, uncommented_uncomment, rfl⟩

theorem step_heading (h : s.At ls i) (hr : role ls i = .heading) :
    Step ls i (s.read (i + 1) (.text (isIndented (lineAt ls i)) (trimStart (lineAt ls i)))) := by
  have ⟨_, hi, hb⟩ := role_eq_heading_iff.mp hr
  rw [← h.pending_isSome] at hi
  rcases forall_or_splitsAt (· = ']') (trimStart (lineAt ls i)).tail with hc | ⟨inner, after, hs⟩
  · have hc : ']' ∉ (trimStart (lineAt ls i)).tail := fun hm => by simpa using hc _ hm
    rw [read_of_fault hi (Statement.ofBody_of_bracket hb ▸ Statement.ofHeading_of_not_mem hc)]
    exact .fault (.unterminatedHeading hr hc)
  · rw [read_of_heading hi (Statement.ofBody_of_bracket hb ▸ Statement.ofHeading_of_splitsAt hs)]
    exact .entries (fun _ => not_faulty_of_heading hr hs) (succ_heading hr ⟨inner, after, hs, rfl⟩)
      (by simp [hr, Role.givesEntry]) (by simp)

theorem step_pair (h : s.At ls i) (hr : role ls i = .pair) :
    Step ls i (s.read (i + 1) (.text (isIndented (lineAt ls i)) (trimStart (lineAt ls i)))) := by
  have ⟨_, hi, hb⟩ := role_eq_pair_iff.mp hr
  rw [← h.pending_isSome] at hi
  have hb := Statement.ofBody_of_no_bracket hb
  rcases forall_or_splitsAt isDelimiter (trimStart (lineAt ls i)) with hd | ⟨before, after, hs⟩
  · rw [read_of_fault hi (hb ▸ Statement.ofPair_of_no_delimiter hd)]
    exact .fault (.missingDelimiter hr hd)
  by_cases hk : trim before = []
  case pos =>
    rw [read_of_fault hi (hb ▸ Statement.ofPair_of_blank hs hk)]
    exact .fault (.emptyKey hr hs (trim_eq_nil_iff.mp hk))
  case neg =>
    rw [read_of_pair hi (hb ▸ Statement.ofPair_of_splitsAt hs hk)]
    refine .entries (fun _ => not_faulty_of_pair hr hs hk) (h.succ_pair hr hs)
      (by simp [hr, Role.givesEntry]) ?_
    exact List.forall_mem_singleton.mpr (.pair hr hs h.heading ⟨_, uncommented_uncomment, rfl⟩)

theorem step (h : s.At ls i) (he : trimEnd (lineAt ls i) = lineAt ls i) :
    Step ls i (s.read (i + 1) (Line.ofChars (lineAt ls i))) := by
  rw [Line.ofChars_eq he]
  by_cases hg : isIgnorable (lineAt ls i)
  case pos =>
    rw [if_pos hg]
    exact h.step_ignorable (role_eq_ignorable_iff.mpr hg)
  case neg =>
    rw [if_neg hg]
    cases hr : role ls i with
    | ignorable    => exact absurd (role_eq_ignorable_iff.mp hr) hg
    | continuation => exact h.step_continuation hr
    | heading      => exact h.step_heading hr
    | pair         => exact h.step_pair hr

end Scope.At

-- The numbers of the lines from a position on that give an entry.
def entryNumbersFrom (ls : List (List Char)) (i : Nat) : List Nat :=
  ((List.range' i (ls.length - i)).filter fun i => (role ls i).givesEntry).map (· + 1)

-- What reading the lines from a position on can come to.
inductive Run (ls : List (List Char)) (i : Nat) : Except Error Document → Prop
  | fault {j f} (hj : i ≤ j) (h : Faulty ls j f)
    (hf : ∀ k, i ≤ k → k < j → ∀ f, ¬Faulty ls k f) : Run ls i (.error ⟨j + 1, f⟩)
  | document {document} (hf : ∀ k, i ≤ k → ∀ f, ¬Faulty ls k f)
    (hn : document.map (·.line) = entryNumbersFrom ls i) (hg : ∀ e ∈ document, Gives ls e) :
    Run ls i (.ok document)

theorem entryNumbersFrom_of_lt (h : i < ls.length) :
    entryNumbersFrom ls i =
      (if (role ls i).givesEntry then [i + 1] else []) ++ entryNumbersFrom ls (i + 1) := by
  have hl : ls.length - i = ls.length - (i + 1) + 1 := by omega
  rw [entryNumbersFrom, hl, List.range'_succ, List.filter_cons]
  split <;> rfl

theorem not_faulty_of_length_le {f : Fault} (h : ls.length ≤ i) : ¬Faulty ls i f := by
  have hr : role ls i = .ignorable := by
    have : lineAt ls i = [] := by simp [lineAt, h]
    rw [role_eq_ignorable_iff, this]
    rfl
  exact not_faulty_of_role (by simp [hr]) (by simp [hr])

theorem Step.at {s : Scope} {document : Document} (h : Step ls i (.ok (s, document))) :
    s.At ls (i + 1) := by
  cases h
  assumption

namespace Run

theorem of_length_le (h : ls.length ≤ i) : Run ls i (.ok []) :=
  .document (fun _ hk _ => not_faulty_of_length_le (h.trans hk))
    (by simp [entryNumbersFrom, Nat.sub_eq_zero_of_le h]) (by simp)

theorem of_step_error {e : Error} (h : Step ls i (.error e)) : Run ls i (.error e) := by
  cases h with
  | fault h => exact .fault le_rfl h fun k hk hi => absurd hk (by omega)

theorem of_step_ok {s : Scope} {document : Document} {result : Except Error Document}
    (hi : i < ls.length) (h : Step ls i (.ok (s, document))) (hr : Run ls (i + 1) result) :
    Run ls i (result.map (document ++ ·)) := by
  cases h with
  | entries hf _ hn hg =>
  cases hr with
  | fault hj hf' hl =>
    refine .fault (by omega) hf' fun k hk hkj => ?_
    rcases Nat.eq_or_lt_of_le hk with rfl | hk
    · exact hf
    · exact hl k hk hkj
  | document hl hn' hg' =>
    refine .document (fun k hk => ?_) ?_ ?_
    · rcases Nat.eq_or_lt_of_le hk with rfl | hk
      · exact hf
      · exact hl k hk
    · rw [List.map_append, hn, hn', entryNumbersFrom_of_lt hi]
    · exact List.forall_mem_append.mpr ⟨hg, hg'⟩

end Run

theorem readLines_cons {s : Scope} {n : Nat} {line : Line} {lines : List Line} :
    readLines s n (line :: lines) =
      match s.read n line with
      | .error e        => .error e
      | .ok (s, entries) => (readLines s (n + 1) lines).map (entries ++ ·) := by
  rw [readLines]
  cases s.read n line with
  | error => rfl
  | ok r =>
    change (readLines r.1 (n + 1) lines).bind _ = (readLines r.1 (n + 1) lines).map _
    cases readLines r.1 (n + 1) lines <;> rfl

-- The induction is on the lines that are left, and the scope carries what the others said.
theorem Scope.At.run {s : Scope} {rest : List (List Char)} (h : s.At ls i)
    (he : ∀ l ∈ ls, trimEnd l = l) (hd : ls.drop i = rest) :
    Run ls i (readLines s (i + 1) (rest.map Line.ofChars)) := by
  induction rest generalizing i s with
  | nil => exact .of_length_le (List.drop_eq_nil_iff.mp hd)
  | cons line rest ih =>
    have hi : i < ls.length := by
      by_contra hn
      simp [List.drop_eq_nil_of_le (Nat.le_of_not_lt hn)] at hd
    have hl : lineAt ls i = line := by
      have : ls[i]? = some line := by simpa using congrArg List.head? hd
      simp [lineAt, this]
    have hr : ls.drop (i + 1) = rest := by rw [← List.tail_drop, hd, List.tail_cons]
    have hstep := h.step (hl ▸ he _ (List.mem_of_mem_drop (hd ▸ List.mem_cons_self)))
    rw [List.map_cons, readLines_cons, ← hl]
    cases hs : s.read (i + 1) (Line.ofChars (lineAt ls i)) with
    | error e => exact .of_step_error (hs ▸ hstep)
    | ok r =>
      rw [hs] at hstep
      exact .of_step_ok hi hstep (ih hstep.at hr)

theorem trimEnd_of_mem_texts {content l : List Char} (h : l ∈ texts content) : trimEnd l = l := by
  obtain ⟨_, _, rfl⟩ := List.mem_map.mp h
  exact trimEnd_trimEnd

theorem read_run {content : String} : Run (texts content.toList) 0 (read content) := by
  have hl : lines content.toList = (texts content.toList).map Line.ofChars := by
    rw [lines, texts, List.map_map]
    exact List.map_congr_left fun _ _ => Line.ofChars_trimEnd.symm
  rw [read, hl]
  exact Scope.At.start.run (fun _ => trimEnd_of_mem_texts) rfl

theorem firstFault_of_read {content : String} {e : Error} (h : read content = .error e) :
    FirstFault (texts content.toList) e := by
  have hr : Run (texts content.toList) 0 (read content) := read_run
  rw [h] at hr
  cases hr with
  | fault _ hf hl =>
    exact ⟨⟨_, rfl, hf⟩, fun i hi => hl i (Nat.zero_le i) (Nat.lt_of_succ_lt_succ hi)⟩

theorem lists_of_read {content : String} {document : Document} (h : read content = .ok document) :
    (∀ i f, ¬Faulty (texts content.toList) i f) ∧ Lists (texts content.toList) document := by
  have hr : Run (texts content.toList) 0 (read content) := read_run
  rw [h] at hr
  cases hr with
  | document hf hn hg =>
    refine ⟨fun i => hf i (Nat.zero_le i), ?_, hg⟩
    rw [hn, entryNumbersFrom, List.range_eq_range', Nat.sub_zero]

theorem FirstFault.unique {e₁ e₂ : Error} (h₁ : FirstFault ls e₁) (h₂ : FirstFault ls e₂) :
    e₁ = e₂ := by
  obtain ⟨line₁, fault₁⟩ := e₁
  obtain ⟨line₂, fault₂⟩ := e₂
  obtain ⟨⟨i, hi, hf₁⟩, hl₁⟩ := h₁
  obtain ⟨⟨j, hj, hf₂⟩, hl₂⟩ := h₂
  dsimp only at *
  subst hi hj
  have hij : i = j := by
    rcases Nat.lt_trichotomy i j with h | h | h
    · exact absurd hf₁ (hl₂ i (by omega) _)
    · exact h
    · exact absurd hf₂ (hl₁ j (by omega) _)
  subst hij
  rw [hf₁.unique hf₂]

theorem read_eq_error_iff {content : String} {e : Error} :
    read content = .error e ↔ FirstFault (texts content.toList) e := by
  refine ⟨firstFault_of_read, fun h => ?_⟩
  cases hr : read content with
  | error e' => rw [(firstFault_of_read hr).unique h]
  | ok document =>
    have ⟨i, _, hf⟩ := h.faulty
    exact absurd hf ((lists_of_read hr).left i _)

theorem HeadingAbove.unique {name₁ name₂ : String} (h₁ : HeadingAbove ls i name₁)
    (h₂ : HeadingAbove ls i name₂) : name₁ = name₂ := by
  cases h₁ <;> cases h₂
  case none.none => rfl
  case none.some h _ hj _ => exact absurd hj.holds (h _ hj.lt)
  case some.none hj _ h => exact absurd hj.holds (h _ hj.lt)
  case some.some hj₁ hn₁ _ hj₂ hn₂ =>
    cases hj₁.unique hj₂
    obtain ⟨_, _, hs₁, rfl⟩ := hn₁
    obtain ⟨_, _, hs₂, rfl⟩ := hn₂
    rw [(hs₁.unique hs₂).left]

theorem ValueText.unique {cs : List Char} {value₁ value₂ : String} (h₁ : ValueText cs value₁)
    (h₂ : ValueText cs value₂) : value₁ = value₂ := by
  obtain ⟨_, hk₁, rfl⟩ := h₁
  obtain ⟨_, hk₂, rfl⟩ := h₂
  rw [hk₁.unique hk₂]

theorem Gives.unique {e₁ e₂ : Entry} (h₁ : Gives ls e₁) (h₂ : Gives ls e₂)
    (hl : e₁.line = e₂.line) : e₁ = e₂ := by
  cases h₁ with
  | pair hr₁ hs₁ hh₁ hv₁ =>
    cases h₂ with
    | pair hr₂ hs₂ hh₂ hv₂ =>
      cases Nat.succ.inj hl
      obtain ⟨rfl, rfl⟩ := hs₁.unique hs₂
      rw [hh₁.unique hh₂, hv₁.unique hv₂]
    | continuation hr₂ =>
      cases Nat.succ.inj hl
      simp [hr₁] at hr₂
  | continuation hr₁ hj₁ hs₁ hh₁ hv₁ =>
    cases h₂ with
    | pair hr₂ =>
      cases Nat.succ.inj hl
      simp [hr₁] at hr₂
    | continuation hr₂ hj₂ hs₂ hh₂ hv₂ =>
      cases Nat.succ.inj hl
      cases hj₁.unique hj₂
      obtain ⟨rfl, rfl⟩ := hs₁.unique hs₂
      rw [hh₁.unique hh₂, hv₁.unique hv₂]

theorem Lists.unique {document₁ document₂ : Document} (h₁ : Lists ls document₁)
    (h₂ : Lists ls document₂) : document₁ = document₂ := by
  have hn := h₁.numbers.trans h₂.numbers.symm
  have he₁ := h₁.entries
  have he₂ := h₂.entries
  clear h₁ h₂
  induction document₁ generalizing document₂ with
  | nil => exact (List.map_eq_nil_iff.mp hn.symm).symm
  | cons e₁ document₁ ih =>
    obtain ⟨e₂, document₂, rfl, hl, hn⟩ := List.map_eq_cons_iff.mp hn.symm
    have ⟨hg₁, he₁⟩ := List.forall_mem_cons.mp he₁
    have ⟨hg₂, he₂⟩ := List.forall_mem_cons.mp he₂
    rw [hg₁.unique hg₂ hl.symm, ih hn.symm he₁ he₂]

theorem read_eq_ok_iff {content : String} {document : Document} :
    read content = .ok document ↔
      (∀ i f, ¬Faulty (texts content.toList) i f) ∧ Lists (texts content.toList) document := by
  refine ⟨lists_of_read, fun ⟨hf, hl⟩ => ?_⟩
  cases hr : read content with
  | error e =>
    have ⟨i, _, hi⟩ := (firstFault_of_read hr).faulty
    exact absurd hi (hf i _)
  | ok document' => rw [(lists_of_read hr).right.unique hl]

-- Reading follows the grammar: it ends at the first faulty line, and without one it collects what
-- the pairs and their continuations give.
theorem read_follows_grammar (content : String) :
    (∀ e, read content = .error e ↔ FirstFault (texts content.toList) e) ∧
      ∀ document, read content = .ok document ↔
        (∀ i f, ¬Faulty (texts content.toList) i f) ∧ Lists (texts content.toList) document :=
  ⟨fun _ => read_eq_error_iff, fun _ => read_eq_ok_iff⟩

end Document
end BuildConfig
