import BuildConfig.Proofs.Document.Reader

namespace BuildConfig

-- The entry as it is found where lines have other numbers.
def Entry.renumber (f : Nat → Nat) (e : Entry) : Entry :=
  { e with line := f e.line }

namespace Document

def Error.renumber (f : Nat → Nat) (e : Error) : Error :=
  { e with line := f e.line }

-- What reading comes to where lines have other numbers.
def renumber (f : Nat → Nat) : Except Error Document → Except Error Document
  | .ok document => .ok (document.map (·.renumber f))
  | .error e     => .error (e.renumber f)

-- The lines that a result names.
def lineNumbers : Except Error Document → List Nat
  | .ok document => document.map (·.line)
  | .error e     => [e.line]

variable {s s' : Scope} {n m : Nat} {f g : Nat → Nat} {line : Line}
variable {first second lines : List Line} {document entries : Document}
variable {result : Except Error Document}

theorem renumber_congr (h : ∀ m ∈ lineNumbers result, f m = g m) :
    renumber f result = renumber g result := by
  cases result with
  | error e =>
    have he : f e.line = g e.line := h e.line (List.mem_singleton_self _)
    simp only [renumber, Error.renumber, he]
  | ok document =>
    have he : ∀ e ∈ document, e.renumber f = e.renumber g := by
      intro e he
      simp only [Entry.renumber, h e.line (List.mem_map_of_mem he)]
    exact congrArg Except.ok (List.map_congr_left he)

theorem renumber_id : renumber id result = result := by
  cases result with
  | error e     => rfl
  | ok document => exact congrArg Except.ok (List.map_id document)

theorem renumber_eq_self (h : ∀ m ∈ lineNumbers result, f m = m) : renumber f result = result :=
  (renumber_congr h).trans renumber_id

theorem renumber_map_append :
    renumber f (result.map (document ++ ·)) =
      (renumber f result).map (document.map (·.renumber f) ++ ·) := by
  cases result with
  | error e    => rfl
  | ok further => exact congrArg Except.ok List.map_append

theorem mem_lineNumbers_map_append (h : m ∈ lineNumbers (result.map (document ++ ·))) :
    m ∈ document.map (·.line) ∨ m ∈ lineNumbers result := by
  cases result with
  | error e    => exact .inr h
  | ok further => simpa [lineNumbers, Except.map] using h

-- The number of a line goes into what is read from it, and into nothing else.
theorem Scope.read_renumber :
    s.read (f n) line =
      match s.read n line with
      | .error e            => .error (e.renumber f)
      | .ok (next, entries) => .ok (next, entries.map (·.renumber f)) := by
  unfold Scope.read
  split
  case h_1 => rfl
  case h_2 =>
    split
    case h_1 => rfl
    case h_2 => split <;> rfl

theorem Scope.line_of_read (h : s.read n line = .ok (s', entries)) : ∀ e ∈ entries, e.line = n := by
  have hr := @Scope.read_renumber s n (fun _ => n) line
  rw [h] at hr
  have he : entries = entries.map (·.renumber fun _ => n) := by simpa using hr
  intro e hm
  rw [he] at hm
  obtain ⟨_, _, rfl⟩ := List.mem_map.mp hm
  rfl

theorem Scope.line_of_read_error {e : Error} (h : s.read n line = .error e) : e.line = n := by
  have hr := @Scope.read_renumber s n (fun _ => n) line
  rw [h] at hr
  have he : e = e.renumber fun _ => n := by simpa using hr
  rw [he]
  rfl

-- Lines that are counted on from another number are read alike.
theorem readLines_renumber (h : ∀ m, n ≤ m → f (m + 1) = f m + 1) :
    readLines s (f n) lines = renumber f (readLines s n lines) := by
  induction lines generalizing s n with
  | nil => rfl
  | cons line lines ih =>
    rw [readLines_cons, readLines_cons, Scope.read_renumber]
    cases s.read n line with
    | error e => rfl
    | ok r =>
      dsimp only
      rw [renumber_map_append, ← h n le_rfl, ih fun m hm => h m (by omega)]

-- Reading names only lines that it reads.
theorem mem_lineNumbers_readLines (h : m ∈ lineNumbers (readLines s n lines)) :
    n ≤ m ∧ m < n + lines.length := by
  induction lines generalizing s n with
  | nil => cases h
  | cons line lines ih =>
    rw [List.length_cons]
    rw [readLines_cons] at h
    cases hr : s.read n line with
    | error e =>
      rw [hr] at h
      have he := Scope.line_of_read_error hr
      have hm : m = e.line := List.mem_singleton.mp h
      omega
    | ok r =>
      rw [hr] at h
      rcases mem_lineNumbers_map_append h with h | h
      case inl =>
        obtain ⟨e, he, rfl⟩ := List.mem_map.mp h
        have := Scope.line_of_read hr e he
        omega
      case inr =>
        have := ih h
        omega

-- Where the lines behind some others stand.
def Scope.next (s : Scope) (line : Line) : Scope :=
  match s.read 0 line with
  | .ok (next, _) => next
  | .error _      => s

def Scope.after (s : Scope) (lines : List Line) : Scope :=
  lines.foldl Scope.next s

theorem Scope.eq_next_of_read (h : s.read n line = .ok (s', entries)) : s' = s.next line := by
  have hr := @Scope.read_renumber s n (fun _ => 0) line
  rw [h] at hr
  rw [Scope.next, hr]

-- Lines are read one after the other, so those in front are read first, and the others from where they
-- stand.
theorem readLines_append :
    readLines s n (first ++ second) =
      (readLines s n first).bind fun document =>
        (readLines (s.after first) (n + first.length) second).map (document ++ ·) := by
  induction first generalizing s n with
  | nil =>
    change readLines s n second = (readLines s n second).map ([] ++ ·)
    cases readLines s n second <;> rfl
  | cons line first ih =>
    rw [List.cons_append, readLines_cons, readLines_cons]
    cases hr : s.read n line with
    | error e => rfl
    | ok r =>
      obtain ⟨s', entries⟩ := r
      have hn : n + (line :: first).length = n + 1 + first.length := by
        rw [List.length_cons]
        omega
      have ha : s.after (line :: first) = s'.after first := by
        rw [Scope.eq_next_of_read hr]
        rfl
      dsimp only
      rw [ih, hn, ha]
      cases readLines s' (n + 1) first with
      | error e => rfl
      | ok document =>
        cases readLines (s'.after first) (n + 1 + first.length) second with
        | error e    => rfl
        | ok further => exact congrArg Except.ok (List.append_assoc entries document further).symm

end Document
end BuildConfig
