import BuildConfig.Files.Volume
import BuildConfig.Proofs.Files.Reading

namespace BuildConfig

namespace FileTree
variable {tree after : FileTree} {l : Location} {content : ByteArray}

theorem content?_eq_some_iff : tree.content? l = some content ↔ tree.node? l = some (.file content) := by
  rw [content?]
  split <;> simp_all

theorem mem_locations_of_content? (h : (tree.content? l).isSome) : l ∈ tree.locations := by
  obtain ⟨content, h⟩ := Option.isSome_iff_exists.mp h
  have hn := content?_eq_some_iff.mp h
  rw [node?] at hn
  split at hn
  case isTrue => cases hn
  case isFalse =>
    obtain ⟨before, rest, hb, _⟩ := List.lookup_eq_some_iff.mp hn
    rw [locations, List.mem_eraseDups, hb]
    simp

theorem mem_changes_iff :
    l ∈ tree.changes after ↔ (after.content? l).isSome ∧ after.content? l ≠ tree.content? l := by
  have hi : Function.Injective ByteArray.data := fun _ _ => ByteArray.ext
  rw [changes, List.mem_filter, decide_eq_true_iff, (Option.map_injective hi).ne_iff]
  exact ⟨(·.right), fun h => ⟨mem_locations_of_content? h.left, h⟩⟩

-- A new file where there was none of that content is a change.
theorem mem_changes_of_file (h : after.node? l = some (.file content))
    (hn : after.node? l ≠ tree.node? l) : l ∈ tree.changes after := by
  have hc := content?_eq_some_iff.mpr h
  refine mem_changes_iff.mpr ⟨by rw [hc]; rfl, fun he => ?_⟩
  rw [h, content?_eq_some_iff.mp (he.symm.trans hc)] at hn
  contradiction

end FileTree

namespace Volume
variable {v w u : Volume} {path text : String} {paths before after : List String} {l : Location}

theorem writeText_volume : (BuildConfig.writeText path text : StateM Volume _) v = v.writeText path text :=
  rfl

theorem opened_eq_ok_iff :
    v.opened path = .ok l ↔ v.tree.target path = .ok l ∧ v.refusal? v.tree l = none := by
  rw [opened, bind_eq_ok_iff]
  constructor
  case mp =>
    rintro ⟨l', ht, h⟩
    cases hr : v.refusal? v.tree l' with
    | some cause => simp [hr, throw, throwThe, MonadExceptOf.throw] at h
    | none =>
      rw [hr] at h
      cases h
      exact ⟨ht, hr⟩
  case mpr =>
    rintro ⟨ht, hr⟩
    exact ⟨l, ht, by rw [hr]; rfl⟩

theorem cut?_eq_some_iff {shortage : Shortage} :
    v.cut? l text = some shortage ↔
      v.shortage? v.tree l = some shortage ∧ shortage.room < text.utf8ByteSize := by
  rw [cut?, Option.filter_eq_some_iff, decide_eq_true_iff]

-- The ways for a write to end.
inductive Writes (v : Volume) (path text : String) : Except WriteError Unit × Volume → Prop
  | refused {cause} (h : v.opened path = .error cause) : Writes v path text (.error (.atOpening cause), v)
  | device {l : Location} {result} (h : v.opened path = .ok l) (hd : v.tree.node? l = some .fullDevice) :
    Writes v path text (result, v)
  | cut {l : Location} {shortage} (h : v.opened path = .ok l) (hd : v.tree.node? l ≠ some .fullDevice)
    (hc : v.cut? l text = some shortage) :
    Writes v path text (.error (.atWriting shortage.cause), v.put l (shortage.part text))
  | whole {l : Location} (h : v.opened path = .ok l) (hd : v.tree.node? l ≠ some .fullDevice)
    (hc : v.cut? l text = none) : Writes v path text (.ok (), v.put l text.toUTF8)

theorem writes_writeText : Writes v path text (v.writeText path text) := by
  rw [writeText]
  cases h : v.opened path with
  | error cause => exact .refused h
  | ok l =>
    dsimp only
    rw [fill]
    split
    case h_1 hd => exact .device h hd
    case h_2 hd =>
      cases hc : v.cut? l text with
      | some shortage => exact .cut h hd hc
      | none          => exact .whole h hd hc

-- Writing to some paths made one volume of another. Only regular files at their ends came or changed.
structure Touches (paths : List String) (v w : Volume) : Prop where
  surroundings : v.tree.SameSurroundings w.tree
  medium       : w = { v with tree := w.tree }
  filled       : ∀ l, w.tree.node? l = v.tree.node? l ∨ ∃ content, w.tree.node? l = some (.file content)
  elsewhere    : ∀ l, (∀ path ∈ paths, v.tree.target path ≠ .ok l) → w.tree.node? l = v.tree.node? l

namespace Touches

theorem refl (v : Volume) : Touches paths v v where
  surroundings  := .refl v.tree
  medium        := rfl
  filled _      := .inl rfl
  elsewhere _ _ := rfl

theorem put {content : ByteArray} (h : v.opened path = .ok l)
    (hd : v.tree.node? l ≠ some .fullDevice) : Touches [path] v (v.put l content) := by
  have ht := (opened_eq_ok_iff.mp h).left
  have hn := FileTree.ne_nil_of_target ht
  refine {
    surroundings := FileTree.sameSurroundings_put hn (FileTree.not_directory_of_target ht) hd
    medium       := rfl
    filled       := fun l' => ?filled
    elsewhere    := fun l' hl => FileTree.node?_put_of_ne fun he => ?elsewhere }
  case filled =>
    by_cases hl : l' = l
    case pos =>
      subst hl
      exact .inr ⟨content, FileTree.node?_put_self hn⟩
    case neg => exact .inl (FileTree.node?_put_of_ne hl)
  case elsewhere => exact hl path List.mem_cons_self (he ▸ ht)

theorem writeText : Touches [path] v (v.writeText path text).2 := by
  have h : Writes v path text (v.writeText path text) := writes_writeText
  generalize v.writeText path text = result at h ⊢
  cases h with
  | refused h    => exact .refl v
  | device h hd  => exact .refl v
  | cut h hd hc  => exact .put h hd
  | whole h hd _ => exact .put h hd

theorem trans (h₁ : Touches before v w) (h₂ : Touches after w u) : Touches (before ++ after) v u where
  surroundings := h₁.surroundings.trans h₂.surroundings
  medium       := by rw [h₂.medium, h₁.medium]
  filled l     := by
    rcases h₂.filled l with h | h
    case inl => exact h ▸ h₁.filled l
    case inr => exact .inr h
  elsewhere l hl := by
    have ⟨hb, ha⟩ := List.forall_mem_append.mp hl
    have ha : ∀ path ∈ after, w.tree.target path ≠ .ok l := fun path hp =>
      mt h₁.surroundings.target_iff.mpr (ha path hp)
    exact (h₂.elsewhere l ha).trans (h₁.elsewhere l hb)

theorem mem_changes (h : Touches paths v w) (hl : w.tree.node? l ≠ v.tree.node? l) :
    l ∈ v.tree.changes w.tree := by
  obtain ⟨content, hc⟩ := (h.filled l).resolve_left hl
  exact FileTree.mem_changes_of_file hc hl

theorem exists_target (h : Touches paths v w) (hl : w.tree.node? l ≠ v.tree.node? l) :
    ∃ path ∈ paths, v.tree.target path = .ok l := by
  by_contra hn
  push Not at hn
  exact hl (h.elsewhere l hn)

end Touches
end Volume
end BuildConfig
