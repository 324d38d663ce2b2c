import BuildConfig.Proofs.Files.Writing

namespace BuildConfig
namespace FileTree

-- A path leads to a location if it can be followed to there, or if writing to it would fill what may
-- not stand there yet.
def LeadsTo (tree : FileTree) (path : String) (l : Location) : Prop :=
  tree.resolve path = .ok l ∨ tree.target path = .ok l

instance {tree : FileTree} {path : String} {l : Location} : Decidable (LeadsTo tree path l) :=
  inferInstanceAs (Decidable (_ ∨ _))

variable {tree tree₁ tree₂ : FileTree} {here l : Location} {segment path text : String}
variable {segments : List String}

theorem walk_append_singleton :
    tree.walk here (segments ++ [segment]) =
      tree.walk here segments >>= (tree.step · segment) := by
  simp only [walk, List.foldlM_append, List.foldlM_cons, List.foldlM_nil, bind_pure]

theorem walk_append_singleton_eq_ok_iff :
    tree.walk here (segments ++ [segment]) = .ok l ↔
      ∃ next, tree.walk here segments = .ok next ∧ tree.step next segment = .ok l := by
  rw [walk_append_singleton]
  exact bind_eq_ok_iff

-- A path that can be followed leads to a directory, and its last segment is taken from there.
structure Follows (tree : FileTree) (path : String) (directory : Location) (name : String)
    (l : Location) : Prop where
  checked : checkPath path = .ok ()
  leads   : ∃ before, Path.segments path = before ++ [name] ∧
    tree.walk (tree.origin path) before = .ok directory
  taken   : tree.step directory name = .ok l

theorem resolve_eq_ok_iff :
    tree.resolve path = .ok l ↔ ∃ directory name, tree.Follows path directory name l := by
  rw [resolve, bind_eq_ok_iff]
  constructor
  · intro ⟨_, hc, hw⟩
    have hn : Path.segments path ≠ [] := mt List.map_eq_nil_iff.mp (List.splitOn_ne_nil _ _)
    have hs := List.dropLast_concat_getLast hn
    rw [← hs] at hw
    have ⟨directory, hw, ht⟩ := walk_append_singleton_eq_ok_iff.mp hw
    exact ⟨directory, (Path.segments path).getLast hn, hc, ⟨_, hs.symm, hw⟩, ht⟩
  · intro ⟨directory, name, hc, ⟨before, hs, hw⟩, ht⟩
    refine ⟨(), hc, ?_⟩
    rw [hs]
    exact walk_append_singleton_eq_ok_iff.mpr ⟨directory, hw, ht⟩

-- No slash ends a path that can be opened for writing, so its last segment is its last name.
theorem Opens.exists_segments {directory : Location} {name : String}
    (ho : tree.Opens path directory name) :
    name ≠ "" ∧ ∃ before, Path.segments path = before ++ [name] ∧
      tree.walk (tree.origin path) before = .ok directory := by
  have ⟨before, hs, hw⟩ := ho.leads
  have ⟨_, _, hl⟩ := not_or.mp ho.proper |>.imp_right not_or.mp
  cases hr : (Path.segments path).reverse with
  | nil => simp [hr] at hs
  | cons last before' =>
    have hp : Path.segments path = before'.reverse ++ [last] := List.reverse_eq_cons_iff.mp hr
    have hn : last ≠ "" := by simpa [hp] using hl
    rw [hr, List.dropWhile_cons_of_neg (by simpa using hn)] at hs
    cases hs
    exact ⟨hn, before.reverse, hp, hw⟩

-- A path that can be opened for writing can be followed if there is something already.
theorem resolve_of_target (ht : tree.target path = .ok l) :
    tree.resolve path = if (tree.node? l).isSome then .ok l else .error .notFound := by
  obtain ⟨directory, name, ho, rfl⟩ := target_eq_ok_iff.mp ht
  have ⟨hn, before, hs, hw⟩ := ho.exists_segments
  have ⟨hd, hu⟩ := not_or.mp ho.proper |>.imp_right (not_or.mp · |>.left)
  have hi : ¬(name = "" ∨ name = ".") := not_or.mpr ⟨hn, hd⟩
  calc
    tree.resolve path = tree.walk (tree.origin path) (Path.segments path) := by
      rw [resolve, ho.checked]
      rfl
    _ = tree.step directory name := by
      rw [hs, walk_append_singleton, hw]
      rfl
    _ = _ := by
      rw [step_of_directory ho.entered, if_neg hi, if_neg hu, if_neg ho.short]
      cases tree.node? (directory ++ [name]) <;> rfl

-- A text is what a regular file holds that the path leads to.
theorem readText_eq_ok_iff :
    tree.readText path = .ok text ↔
      ∃ l content, tree.resolve path = .ok l ∧ tree.node? l = some (.file content) ∧
        String.fromUTF8? content = some text := by
  rw [readText, bind_eq_ok_iff]
  constructor
  · intro ⟨l, hr, h⟩
    split at h
    case h_3 content hn =>
      split at h
      case h_1 text' ht =>
        cases h
        exact ⟨l, content, hr, hn, ht⟩
      case h_2 => contradiction
    all_goals contradiction
  · intro ⟨l, content, hr, hn, ht⟩
    refine ⟨l, hr, ?_⟩
    rw [hn]
    dsimp only
    rw [ht]
    rfl

-- A text that was written is read again.
theorem readText_of_file (hr : tree.resolve path = .ok l)
    (hl : tree.node? l = some (.file text.toUTF8)) : tree.readText path = .ok text := by
  refine readText_eq_ok_iff.mpr ⟨l, _, hr, hl, ?_⟩
  rw [String.fromUTF8?, String.toUTF8_eq_toByteArray, dif_pos text.isValidUTF8]
  rfl

namespace SameSurroundings
variable (h : SameSurroundings tree₁ tree₂)
include h

theorem resolve (hr : tree₁.resolve path = .ok l) (hl : (tree₂.node? l).isSome) :
    tree₂.resolve path = .ok l := by
  have ⟨_, hc, hw⟩ := bind_eq_ok_iff.mp hr
  exact bind_eq_ok_iff.mpr ⟨(), hc, h.origin ▸ h.walk hw hl⟩

-- What can be followed to a file in one tree leads in the other to where the file would be.
theorem leadsTo (hr : tree₁.resolve path = .ok l) (hl : tree₁.node? l ≠ some .directory) :
    tree₂.LeadsTo path l := by
  have ⟨directory, name, hf⟩ := resolve_eq_ok_iff.mp hr
  have ⟨before, hs, hw⟩ := hf.leads
  have hd := directory_of_step hf.taken
  have hd' := (h.directory directory).mp hd
  have hw : tree₂.walk (tree₂.origin path) before = .ok directory :=
    h.origin ▸ h.walk hw (h.isSome_of_directory hd)
  have ht := hf.taken
  rw [step_of_directory hd] at ht
  split_ifs at ht with hi hu hn
  -- The last segment stays, goes up or is the name of something.
  case pos =>
    cases ht
    contradiction
  case pos =>
    left
    refine resolve_eq_ok_iff.mpr ⟨directory, name, hf.checked, ⟨before, hs, hw⟩, ?_⟩
    rw [step_of_directory hd', if_neg hi, if_pos hu]
    exact ht
  case neg =>
    right
    have ⟨he, hi⟩ := not_or.mp hi
    cases hn' : tree₁.node? (directory ++ [name]) with
    | none => simp [hn'] at ht
    | some node =>
      rw [hn'] at ht
      cases ht
      refine target_eq_ok_iff.mpr ⟨directory, name, ?_, rfl⟩
      exact {
        checked := hf.checked
        leads   := ⟨before.reverse, by simp [hs, he], by rwa [List.reverse_reverse]⟩
        entered := hd'
        proper  := by simp [hs, he, hi, hu]
        short   := hn
        free    := mt (h.directory _).mpr hl }

theorem readText (hn : ∀ l, tree₁.LeadsTo path l → tree₂.node? l = tree₁.node? l)
    (hr : tree₁.readText path = .ok text) : tree₂.readText path = .ok text := by
  have ⟨l, content, hr, hc, ht⟩ := readText_eq_ok_iff.mp hr
  have hc : tree₂.node? l = some (.file content) := (hn l (.inl hr)).trans hc
  exact readText_eq_ok_iff.mpr ⟨l, content, h.resolve hr (by rw [hc]; rfl), hc, ht⟩

-- Where nothing changes that a path leads to, the same text is read, or again none.
theorem readText_iff (hn : ∀ l, tree₁.LeadsTo path l → tree₂.node? l = tree₁.node? l) :
    tree₁.readText path = .ok text ↔ tree₂.readText path = .ok text := by
  constructor
  case mp => exact h.readText hn
  case mpr =>
    intro hr
    have ⟨l, content, hr, hc, ht⟩ := readText_eq_ok_iff.mp hr
    have hl : tree₁.LeadsTo path l := h.symm.leadsTo hr (by rw [hc]; nofun)
    have hc : tree₁.node? l = some (.file content) := (hn l hl).symm.trans hc
    exact readText_eq_ok_iff.mpr ⟨l, content, h.symm.resolve hr (by rw [hc]; rfl), hc, ht⟩

end SameSurroundings
end FileTree
end BuildConfig
