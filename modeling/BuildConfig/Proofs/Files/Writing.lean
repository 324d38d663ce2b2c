import BuildConfig.Files.Access
import Mathlib.Data.List.Induction

namespace BuildConfig

section
variable {ε α β : Type}

theorem bind_eq_ok_iff {x : Except ε α} {f : α → Except ε β} {b : β} :
    x >>= f = .ok b ↔ ∃ a, x = .ok a ∧ f a = .ok b := by
  cases x <;> simp [bind, Except.bind]

theorem mapError_eq_ok_iff {ε' : Type} {x : Except ε α} {f : ε → ε'} {a : α} :
    x.mapError f = .ok a ↔ x = .ok a := by
  cases x <;> simp [Except.mapError]

theorem ite_throw_eq_ok_iff {p : Prop} [Decidable p] {e : ε} {x : Except ε α} {a : α} :
    (if p then throw e else x) = .ok a ↔ ¬p ∧ x = .ok a := by
  by_cases h : p <;> simp [h, throw, throwThe, MonadExceptOf.throw]

end

namespace FileTree

-- Trees that differ in regular files at most.
structure SameSurroundings (tree₁ tree₂ : FileTree) : Prop where
  workingDirectory : tree₁.workingDirectory = tree₂.workingDirectory
  directory  : ∀ l, tree₁.node? l = some .directory ↔ tree₂.node? l = some .directory
  fullDevice : ∀ l, tree₁.node? l = some .fullDevice ↔ tree₂.node? l = some .fullDevice

variable {tree tree₁ tree₂ tree₃ : FileTree} {here l : Location} {segment path text : String}
variable {segments : List String}

namespace SameSurroundings

theorem refl (tree : FileTree) : SameSurroundings tree tree :=
  ⟨rfl, fun _ => .rfl, fun _ => .rfl⟩

theorem symm (h : SameSurroundings tree₁ tree₂) : SameSurroundings tree₂ tree₁ where
  workingDirectory := h.workingDirectory.symm
  directory l      := (h.directory l).symm
  fullDevice l     := (h.fullDevice l).symm

theorem trans (h₁ : SameSurroundings tree₁ tree₂) (h₂ : SameSurroundings tree₂ tree₃) :
    SameSurroundings tree₁ tree₃ where
  workingDirectory := h₁.workingDirectory.trans h₂.workingDirectory
  directory l      := (h₁.directory l).trans (h₂.directory l)
  fullDevice l     := (h₁.fullDevice l).trans (h₂.fullDevice l)

end SameSurroundings

theorem requireDirectory_eq_ok_iff :
    tree.requireDirectory l = .ok () ↔ tree.node? l = some .directory := by
  rw [requireDirectory]
  split <;> simp_all

-- Only a directory can be left by a segment of a path.
theorem directory_of_step (h : tree.step here segment = .ok l) :
    tree.node? here = some .directory :=
  have ⟨_, hd, _⟩ := bind_eq_ok_iff.mp h
  requireDirectory_eq_ok_iff.mp hd

theorem step_of_directory (h : tree.node? here = some .directory) :
    tree.step here segment =
      if segment = "" ∨ segment = "." then .ok here
      else if segment = ".." then .ok here.dropLast
      else if segment.utf8ByteSize > longestName then .error .nameTooLong
      else
        match tree.node? (here ++ [segment]) with
        | some _ => .ok (here ++ [segment])
        | none   => .error .notFound := by
  rw [step, requireDirectory_eq_ok_iff.mpr h]
  rfl

theorem walk_cons_eq_ok_iff :
    tree.walk here (segment :: segments) = .ok l ↔
      ∃ next, tree.step here segment = .ok next ∧ tree.walk next segments = .ok l :=
  bind_eq_ok_iff

namespace SameSurroundings
variable (h : SameSurroundings tree₁ tree₂)
include h

theorem isSome_of_directory (hd : tree₁.node? l = some .directory) : (tree₂.node? l).isSome := by
  rw [(h.directory l).mp hd]
  rfl

-- Whatever a segment leads to in one tree, it leads to in the other if something stands there.
theorem step (hs : tree₁.step here segment = .ok l) (hl : (tree₂.node? l).isSome) :
    tree₂.step here segment = .ok l := by
  have hd := directory_of_step hs
  rw [step_of_directory hd] at hs
  rw [step_of_directory ((h.directory here).mp hd)]
  split_ifs at hs ⊢
  -- Only the last case looks at what stands at the next location.
  case neg =>
    cases hn : tree₁.node? (here ++ [segment]) with
    | none => simp [hn] at hs
    | some node =>
      rw [hn] at hs
      cases hs
      have ⟨_, hl⟩ := Option.isSome_iff_exists.mp hl
      rw [hl]
  all_goals exact hs

theorem isSome_of_walk (hw : tree₁.walk here segments = .ok l) (hl : (tree₂.node? l).isSome) :
    (tree₂.node? here).isSome := by
  cases segments with
  | nil =>
    cases hw
    exact hl
  | cons segment segments =>
    have ⟨_, hs, _⟩ := walk_cons_eq_ok_iff.mp hw
    exact h.isSome_of_directory (directory_of_step hs)

-- A file that comes or goes is no way through, so what leads somewhere in one tree leads there in
-- the other if something stands at its end.
theorem walk (hw : tree₁.walk here segments = .ok l) (hl : (tree₂.node? l).isSome) :
    tree₂.walk here segments = .ok l := by
  induction segments generalizing here with
  | nil => exact hw
  | cons segment segments ih =>
    have ⟨next, hs, hw⟩ := walk_cons_eq_ok_iff.mp hw
    exact walk_cons_eq_ok_iff.mpr ⟨next, h.step hs (h.isSome_of_walk hw hl), ih hw⟩

theorem origin : tree₁.origin path = tree₂.origin path := by
  rw [FileTree.origin, FileTree.origin, h.workingDirectory]

end SameSurroundings

-- A path that can be opened for writing leads to a directory, and its last name is free there for
-- a file.
structure Opens (tree : FileTree) (path : String) (directory : Location) (name : String) :
    Prop where
  checked : checkPath path = .ok ()
  leads   : ∃ before, (Path.segments path).reverse.dropWhile (· = "") = name :: before ∧
    tree.walk (tree.origin path) before.reverse = .ok directory
  entered : tree.node? directory = some .directory
  proper  : ¬(name = "." ∨ name = ".." ∨ (Path.segments path).getLast? = some "")
  short   : ¬name.utf8ByteSize > longestName
  free    : tree.node? (directory ++ [name]) ≠ some .directory

theorem target_eq_ok_iff :
    tree.target path = .ok l ↔
      ∃ directory name, tree.Opens path directory name ∧ l = directory ++ [name] := by
  rw [target, bind_eq_ok_iff]
  constructor
  · rintro ⟨_, hc, h⟩
    split at h
    case h_1 => contradiction
    case h_2 name before hs =>
      obtain ⟨directory, hw, h⟩ := bind_eq_ok_iff.mp h
      obtain ⟨_, hd, h⟩ := bind_eq_ok_iff.mp h
      obtain ⟨hp, h⟩ := ite_throw_eq_ok_iff.mp h
      obtain ⟨hl, h⟩ := ite_throw_eq_ok_iff.mp h
      split at h
      case h_1 => contradiction
      case h_2 hf =>
        cases h
        have hd := requireDirectory_eq_ok_iff.mp hd
        exact ⟨directory, name, ⟨hc, ⟨before, hs, hw⟩, hd, hp, hl, hf⟩, rfl⟩
  · rintro ⟨directory, name, ho, rfl⟩
    have ⟨before, hs, hw⟩ := ho.leads
    refine ⟨(), ho.checked, ?_⟩
    rw [hs]
    refine bind_eq_ok_iff.mpr ⟨directory, hw, bind_eq_ok_iff.mpr ⟨(), ?_, ?_⟩⟩
    · exact requireDirectory_eq_ok_iff.mpr ho.entered
    · refine ite_throw_eq_ok_iff.mpr ⟨ho.proper, ite_throw_eq_ok_iff.mpr ⟨ho.short, ?_⟩⟩
      split
      case h_1 hf => exact absurd hf ho.free
      case h_2    => rfl

theorem ne_nil_of_target (h : tree.target path = .ok l) : l ≠ [] := by
  obtain ⟨_, _, _, rfl⟩ := target_eq_ok_iff.mp h
  exact List.append_ne_nil_of_right_ne_nil _ (List.cons_ne_nil _ _)

theorem not_directory_of_target (h : tree.target path = .ok l) :
    tree.node? l ≠ some .directory := by
  obtain ⟨_, _, ho, rfl⟩ := target_eq_ok_iff.mp h
  exact ho.free

namespace SameSurroundings

theorem target (h : SameSurroundings tree₁ tree₂) (ht : tree₁.target path = .ok l) :
    tree₂.target path = .ok l := by
  obtain ⟨directory, name, ho, rfl⟩ := target_eq_ok_iff.mp ht
  have ⟨before, hs, hw⟩ := ho.leads
  exact target_eq_ok_iff.mpr ⟨directory, name, {
    ho with
    leads   := ⟨before, hs, h.origin ▸ h.walk hw (h.isSome_of_directory ho.entered)⟩
    entered := (h.directory _).mp ho.entered
    free    := mt (h.directory _).mpr ho.free }, rfl⟩

theorem target_iff (h : SameSurroundings tree₁ tree₂) :
    tree₁.target path = .ok l ↔ tree₂.target path = .ok l :=
  ⟨h.target, h.symm.target⟩

end SameSurroundings

-- The tree after an attempt to write, which is the same as before where the attempt fails.
def attempt (tree : FileTree) (path text : String) : FileTree :=
  (tree.writeText path text).toOption.getD tree

section
variable (h : tree.target path = .ok l)
include h

theorem attempt_of_fullDevice (hd : tree.node? l = some .fullDevice) :
    tree.attempt path text = tree := by
  rw [attempt, writeText, h]
  simp only [hd]
  split <;> rfl

theorem attempt_of_not_fullDevice (hd : tree.node? l ≠ some .fullDevice) :
    tree.attempt path text = tree.put l (.file text.toUTF8) := by
  rw [attempt, writeText, h]
  dsimp only
  split
  case h_1 hf => exact absurd hf hd
  case h_2    => rfl

end

theorem attempt_of_error {e : FileError} (h : tree.target path = .error e) :
    tree.attempt path text = tree := by
  rw [attempt, writeText, h]
  rfl

-- Trees that agree everywhere but at one location, with neither a directory nor a device there in just
-- one of them.
theorem SameSurroundings.of_others (hw : tree₁.workingDirectory = tree₂.workingDirectory)
    (ho : ∀ l' ≠ l, tree₂.node? l' = tree₁.node? l')
    (hd : tree₁.node? l = some .directory ↔ tree₂.node? l = some .directory)
    (hf : tree₁.node? l = some .fullDevice ↔ tree₂.node? l = some .fullDevice) :
    SameSurroundings tree₁ tree₂ where
  workingDirectory := hw
  directory l' := by
    by_cases hl : l' = l
    case pos => rwa [hl]
    case neg => rw [ho l' hl]
  fullDevice l' := by
    by_cases hl : l' = l
    case pos => rwa [hl]
    case neg => rw [ho l' hl]

-- A file that is put where no directory and no device is leaves all of those in place.
theorem sameSurroundings_put {content : ByteArray} (hn : l ≠ [])
    (hd : tree.node? l ≠ some .directory) (hf : tree.node? l ≠ some .fullDevice) :
    SameSurroundings tree (tree.put l (.file content)) := by
  refine .of_others rfl (fun _ => node?_put_of_ne) ?directory ?fullDevice
  case directory  => simp [hd, node?_put_self hn]
  case fullDevice => simp [hf, node?_put_self hn]

theorem sameSurroundings_attempt : SameSurroundings tree (tree.attempt path text) := by
  cases ht : tree.target path with
  | error e =>
    rw [attempt_of_error ht]
    exact .refl tree
  | ok l =>
    by_cases hd : tree.node? l = some .fullDevice
    case pos =>
      rw [attempt_of_fullDevice ht hd]
      exact .refl tree
    case neg =>
      rw [attempt_of_not_fullDevice ht hd]
      exact sameSurroundings_put (ne_nil_of_target ht) (not_directory_of_target ht) hd

theorem node?_attempt_of_target (ht : tree.target path = .ok l)
    (hd : tree.node? l ≠ some .fullDevice) :
    (tree.attempt path text).node? l = some (.file text.toUTF8) := by
  rw [attempt_of_not_fullDevice ht hd, node?_put_self (ne_nil_of_target ht)]

-- Elsewhere nothing changes.
theorem node?_attempt_of_not_target (h : tree.target path ≠ .ok l) :
    (tree.attempt path text).node? l = tree.node? l := by
  cases ht : tree.target path with
  | error e => rw [attempt_of_error ht]
  | ok l' =>
    by_cases hd : tree.node? l' = some .fullDevice
    case pos => rw [attempt_of_fullDevice ht hd]
    case neg =>
      rw [attempt_of_not_fullDevice ht hd]
      exact node?_put_of_ne fun hl => h (hl ▸ ht)

-- Writing succeeds where the path can be opened, and on a full device only if there is nothing to
-- write.
theorem toBool_writeText_iff :
    (tree.writeText path text).toBool ↔
      ∃ l, tree.target path = .ok l ∧ (tree.node? l = some .fullDevice → text = "") := by
  rw [writeText]
  cases tree.target path with
  | error e => simp [Except.toBool]
  | ok l =>
    dsimp only
    split
    case h_1 hd => by_cases ht : text = "" <;> simp [ht, hd, Except.toBool]
    case h_2 hd => simp [Except.toBool, mt (hd ·)]

theorem SameSurroundings.toBool_writeText (h : SameSurroundings tree₁ tree₂) :
    (tree₁.writeText path text).toBool = (tree₂.writeText path text).toBool := by
  rw [Bool.eq_iff_iff, toBool_writeText_iff, toBool_writeText_iff]
  simp only [h.target_iff, h.fullDevice]

end FileTree
end BuildConfig
