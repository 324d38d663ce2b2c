import BuildConfig.Proofs.Files.Parent
import BuildConfig.Proofs.Files.Reading

namespace BuildConfig
namespace FileTree

-- There is nothing but directories on the way from the root to the location.
def Under (tree : FileTree) (l : Location) : Prop :=
  ∀ n < l.length, tree.node? (l.take n) = some .directory

-- The tree as it is seen when one works in another directory.
def within (tree : FileTree) (directory : Location) : FileTree :=
  { tree with workingDirectory := directory }

-- Where a path leads, however long its text is.
def follow (tree : FileTree) (path : String) : Except FileError Location :=
  tree.walk (tree.origin path) (Path.segments path)

variable {tree : FileTree} {here l directory : Location} {segment path other : String}
variable {segments before after : List String}

theorem resolve_eq : tree.resolve path = checkPath path >>= fun _ => tree.follow path :=
  rfl

theorem walk_append :
    tree.walk here (before ++ after) = tree.walk here before >>= (tree.walk · after) :=
  List.foldlM_append

theorem walk_append_eq_ok_iff :
    tree.walk here (before ++ after) = .ok l ↔
      ∃ next, tree.walk here before = .ok next ∧ tree.walk next after = .ok l := by
  rw [walk_append]
  exact bind_eq_ok_iff

namespace Under

theorem step (h : tree.Under here) (hs : tree.step here segment = .ok l) : tree.Under l := by
  have hd := directory_of_step hs
  rw [step_of_directory hd] at hs
  split_ifs at hs with hi hu hn
  -- The segment stays, goes up or is the name of something.
  case pos =>
    cases hs
    exact h
  case pos =>
    cases hs
    intro n hn
    rw [List.length_dropLast] at hn
    rw [List.dropLast_eq_take, List.take_take, Nat.min_eq_left (by omega)]
    exact h n (by omega)
  case neg =>
    cases hn : tree.node? (here ++ [segment]) with
    | none => simp [hn] at hs
    | some node =>
      rw [hn] at hs
      cases hs
      intro n hl
      rw [List.length_append, List.length_singleton] at hl
      rw [List.take_append_of_le_length (by omega)]
      rcases Nat.lt_succ_iff_lt_or_eq.mp hl with hl | rfl
      · exact h n hl
      · rw [List.take_length, hd]

theorem walk (h : tree.Under here) (hw : tree.walk here segments = .ok l) : tree.Under l := by
  induction segments generalizing here with
  | nil =>
    cases hw
    exact h
  | cons segment segments ih =>
    have ⟨next, hs, hw⟩ := walk_cons_eq_ok_iff.mp hw
    exact ih (h.step hs) hw

theorem root : tree.Under [] :=
  fun _ hn => absurd hn (Nat.not_lt_zero _)

-- Going up leads to a directory again.
theorem directory_dropLast (h : tree.Under here) : tree.node? here.dropLast = some .directory := by
  rw [List.dropLast_eq_take]
  cases hl : here.length with
  | zero   => rfl
  | succ n => exact h n (by omega)

-- A segment leads to a file only as the name of that file.
theorem eq_append_of_step (h : tree.Under here) (hs : tree.step here segment = .ok l)
    (hl : tree.node? l ≠ some .directory) : l = here ++ [segment] := by
  have hd := directory_of_step hs
  rw [step_of_directory hd] at hs
  split_ifs at hs with hi hu hn
  case pos =>
    cases hs
    contradiction
  case pos =>
    cases hs
    exact absurd h.directory_dropLast hl
  case neg =>
    cases hn : tree.node? (here ++ [segment]) with
    | none => simp [hn] at hs
    | some node =>
      rw [hn] at hs
      cases hs
      rfl

end Under

-- Idle segments lead nowhere else, and can only be read in a directory.
theorem eq_of_walk_idle (hi : ∀ segment ∈ segments, segment = "" ∨ segment = ".")
    (hw : tree.walk here segments = .ok l) :
    l = here ∧ (segments ≠ [] → tree.node? l = some .directory) := by
  induction segments with
  | nil =>
    cases hw
    exact ⟨rfl, fun hn => absurd rfl hn⟩
  | cons segment segments ih =>
    have ⟨hs, hi⟩ := List.forall_mem_cons.mp hi
    have ⟨next, hn, hw⟩ := walk_cons_eq_ok_iff.mp hw
    have hd := directory_of_step hn
    rw [step_of_directory hd, if_pos hs] at hn
    cases hn
    obtain ⟨rfl, _⟩ := ih hi hw
    exact ⟨rfl, fun _ => hd⟩

theorem walk_idle (hd : tree.node? here = some .directory)
    (hi : ∀ segment ∈ segments, segment = "" ∨ segment = ".") : tree.walk here segments = .ok here := by
  induction segments with
  | nil => rfl
  | cons segment segments ih =>
    have ⟨hs, hi⟩ := List.forall_mem_cons.mp hi
    exact walk_cons_eq_ok_iff.mpr ⟨here, by rw [step_of_directory hd, if_pos hs], ih hi⟩

-- The stem of a path leads to a directory exactly if the path does.
theorem walk_stem_iff {base : String} (hb : base ≠ "") (hd : tree.node? here = some .directory) :
    tree.walk (tree.origin base) ((Path.stem base).map String.ofList) = .ok here ↔
      tree.follow base = .ok here := by
  rw [follow, Path.segments]
  rcases Path.splitOn_eq_stem hb with hs | hs
  case inl => rw [hs]
  case inr =>
    rw [hs, List.map_append, List.map_singleton, walk_append_singleton_eq_ok_iff]
    constructor
    case mp =>
      intro hw
      exact ⟨here, hw, by rw [step_of_directory hd]; rfl⟩
    case mpr =>
      rintro ⟨next, hw, hn⟩
      rw [step_of_directory (directory_of_step hn)] at hn
      cases hn
      exact hw

-- From the directory `directory` the path `other` leads where `path` leads in the tree: along its
-- segments, and, unless the text of `path` is too long, also when it is looked up or opened to be written.
structure LeadsAlike (tree : FileTree) (path : String) (directory : Location) (other : String) :
    Prop where
  followed : tree.follow path = (tree.within directory).follow other
  resolved : checkPath path = .ok () → tree.resolve path = (tree.within directory).resolve other
  opened   : checkPath path = .ok () → tree.target path = (tree.within directory).target other

theorem checkPath_eq_ok_iff :
    checkPath path = .ok () ↔ '\x00' ∉ path.toList ∧ path ≠ "" ∧ path.utf8ByteSize ≤ longestPath := by
  rw [checkPath]
  split_ifs <;> simp_all

theorem checkPath_of_long (hz : '\x00' ∉ path.toList) (hl : path.utf8ByteSize > longestPath) :
    checkPath path = .error .nameTooLong := by
  have hn : path ≠ "" := by
    rintro rfl
    cases hl
  rw [checkPath, if_neg hz, if_neg hn, if_pos hl]

theorem checkPath_of_append {front : String} (h : checkPath (front ++ path) = .ok ())
    (hn : path ≠ "") : checkPath path = .ok () := by
  rw [checkPath_eq_ok_iff, String.toList_append, List.mem_append, String.utf8ByteSize_append] at h
  exact checkPath_eq_ok_iff.mpr ⟨fun hz => h.left (.inr hz), hn, by omega⟩

theorem checkPath_of_join {base : String} (h : checkPath (Path.join base path) = .ok ())
    (ha : ¬Path.isAbsolute path) (hb : base ≠ "") : checkPath base = .ok () := by
  obtain ⟨back, hj⟩ : ∃ back, Path.join base path = base ++ back := by
    rw [Path.join, if_neg (not_or.mpr ⟨ha, hb⟩)]
    split_ifs
    case pos => exact ⟨_, rfl⟩
    case neg => exact ⟨_, String.append_assoc⟩
  rw [hj, checkPath_eq_ok_iff, String.toList_append, List.mem_append, String.utf8ByteSize_append] at h
  exact checkPath_eq_ok_iff.mpr ⟨fun hz => h.left (.inl hz), hb, by omega⟩

theorem origin_within (h : ¬Path.isAbsolute path) : (tree.within directory).origin path = directory :=
  if_neg h

theorem leadsAlike_of_segments (hs : Path.segments path = before ++ Path.segments other)
    (hw : tree.walk (tree.origin path) before = .ok directory) (ho : ¬Path.isAbsolute other)
    (hn : other ≠ "") (hc : checkPath path = .ok () → checkPath other = .ok ()) :
    tree.LeadsAlike path directory other := by
  have hf : tree.follow path = (tree.within directory).follow other := by
    rw [follow, follow, hs, walk_append, hw, origin_within ho]
    rfl
  refine ⟨hf, fun h => ?resolved, fun h => ?opened⟩
  case resolved => rw [resolve_eq, resolve_eq, h, hc h, hf]
  case opened =>
    obtain ⟨segment, hm, he⟩ := Path.exists_segment_ne_empty hn ho
    obtain ⟨name, rest, hr⟩ : ∃ name rest,
        (Path.segments other).reverse.dropWhile (· = "") = name :: rest :=
      List.exists_cons_of_ne_nil fun hd => he <| by
        simpa using List.dropWhile_eq_nil_iff.mp hd segment (List.mem_reverse.mpr hm)
    have hr' : (Path.segments path).reverse.dropWhile (· = "") = name :: (rest ++ before.reverse) := by
      rw [hs, List.reverse_append, List.dropWhile_append, hr]
      rfl
    have hl : (Path.segments path).getLast? = (Path.segments other).getLast? := by
      rw [hs, List.getLast?_append_of_ne_nil _ (List.ne_nil_of_mem hm)]
    have hd : tree.walk (tree.origin path) (rest ++ before.reverse).reverse =
        (tree.within directory).walk ((tree.within directory).origin other) rest.reverse := by
      rw [List.reverse_append, List.reverse_reverse, walk_append, hw, origin_within ho]
      rfl
    rw [target, target, h, hc h, hr', hr, hl]
    dsimp only
    rw [hd]
    rfl

section Parent
variable {base : String} (hr : tree.resolve path = .ok l) (hl : tree.node? l ≠ some .directory)
include hr hl

theorem exists_isParent : ∃ base, Path.parent? path = some base ∧ Path.IsParent path base := by
  rcases Path.parent?_cases path with ⟨_, hi⟩ | hp
  case inr => exact hp
  case inl =>
    obtain ⟨_, _, hw⟩ := bind_eq_ok_iff.mp hr
    have hn : Path.segments path ≠ [] := mt List.map_eq_nil_iff.mp (List.splitOn_ne_nil _ _)
    have hi : ∀ segment ∈ Path.segments path, segment = "" ∨ segment = "." :=
      List.forall_mem_map.mpr fun piece hp => Path.eq_of_isIdle (hi piece hp)
    exact absurd ((eq_of_walk_idle hi hw).right hn) hl

-- The parent of a path that leads to a file leads to the directory with that file.
theorem walk_parent (hp : Path.IsParent path base) (hu : tree.Under tree.workingDirectory) :
    tree.walk (tree.origin path) ((Path.stem base).map String.ofList) = .ok l.dropLast := by
  obtain ⟨_, _, hw⟩ := bind_eq_ok_iff.mp hr
  obtain ⟨idle, name, trailing, hs, hi, ht⟩ := hp.pieces
  have hi : ∀ segment ∈ idle.map String.ofList, segment = "" ∨ segment = "." :=
    List.forall_mem_map.mpr fun piece hp => Path.eq_of_isIdle (hi piece hp)
  have ht : ∀ segment ∈ trailing.map String.ofList, segment = "" ∨ segment = "." :=
    List.forall_mem_map.mpr fun piece hp => Path.eq_of_isIdle (ht piece hp)
  rw [Path.segments, hs, List.map_append, List.map_append, List.map_cons] at hw
  obtain ⟨here, hw, hn⟩ := walk_append_eq_ok_iff.mp hw
  obtain ⟨directory, hw, hd⟩ := walk_append_eq_ok_iff.mp hw
  obtain ⟨rfl, _⟩ := eq_of_walk_idle hi hd
  obtain ⟨file, hn, hf⟩ := walk_cons_eq_ok_iff.mp hn
  obtain ⟨rfl, _⟩ := eq_of_walk_idle ht hf
  have ho : tree.Under (tree.origin path) := by
    rw [origin]
    split
    case isTrue  => exact .root
    case isFalse => exact hu
  rw [(ho.walk hw).eq_append_of_step hn hl, List.dropLast_concat]
  exact hw

theorem leadsAlike_join (hp : Path.IsParent path base) (hu : tree.Under tree.workingDirectory)
    (ho : ¬Path.isAbsolute other) (hn : other ≠ "") :
    tree.LeadsAlike (Path.join base other) l.dropLast other := by
  have hw := walk_parent hr hl hp hu
  have hs : Path.segments (Path.join base other) =
      (Path.stem base).map String.ofList ++ Path.segments other := by
    rw [Path.segments, Path.splitOn_join ho, List.map_append]
    rfl
  rw [origin, ← hp.absolute, ← Path.isAbsolute_join ho] at hw
  obtain ⟨front, hf⟩ := Path.exists_join_eq_append base other
  exact leadsAlike_of_segments hs hw ho hn fun hc => checkPath_of_append (hf ▸ hc) hn

end Parent

end FileTree
end BuildConfig
