import BuildConfig.Options
import BuildConfig.Proofs.Toml.Silence
import BuildConfig.Settings.Load
import BuildConfig.Settings.Template

namespace BuildConfig
namespace Settings

open Toml (Key Entries Silent)
open Toml.Reader (Trails)

-- Entries that have a place to go to and change nothing there.
theorem fillByName_of_idle {slots : List Slot} {s : Settings} {entries : Entries}
    (hn : ∀ e ∈ entries, ∃ slot ∈ slots, slot.name = String.ofList e.1)
    (hs : ∀ e ∈ entries, ∀ slot ∈ slots, slot.fill e.2 s = .ok s) :
    fillByName slots s entries = .ok s := by
  induction entries with
  | nil => rfl
  | cons e entries ih =>
    have ⟨hn, hns⟩ := List.forall_mem_cons.mp hn
    have ⟨hs, hss⟩ := List.forall_mem_cons.mp hs
    obtain ⟨slot, hf⟩ : ∃ slot, slots.find? (·.name = String.ofList e.1) = some slot :=
      Option.isSome_iff_exists.mp (List.find?_isSome.mpr (by simpa using hn))
    rw [fillByName, List.foldlM_cons]
    dsimp only
    rw [hf]
    dsimp only
    rw [hs slot (List.mem_of_find?_eq_some hf)]
    exact ih hns hss

-- Groups without entries make no settings.
theorem ofEntries_of_empty {keys : List Key}
    (h : ∀ key ∈ keys, String.ofList key = "input" ∨ String.ofList key = "output") :
    ofEntries (keys.map (·, .table .header [])) = .ok {} := by
  apply fillByName_of_idle
  case hn =>
    refine List.forall_mem_map.mpr fun key hk => ?_
    rcases h key hk with h | h
    · exact ⟨_, List.mem_cons_self, h.symm⟩
    · exact ⟨_, List.mem_cons_of_mem _ List.mem_cons_self, h.symm⟩
  case hs =>
    refine List.forall_mem_map.mpr fun key hk => ?_
    rintro slot (_ | ⟨_, _ | ⟨_, ⟨⟩⟩⟩) <;> rfl

-- Comments, blank lines and headings make no settings, as long as every heading is that of a group and
-- none of them is repeated.
theorem ofText_of_silent {lines : List (List Char)} {openings : List (Option Key)}
    (h : List.Forall₂ Silent lines openings) (hn : openings.reduceOption.Nodup)
    (hg : ∀ key ∈ openings.reduceOption, String.ofList key = "input" ∨ String.ofList key = "output") :
    ofText (lines.flatMap (· ++ ['\n'])) = .ok {} := by
  rw [ofText, Toml.read_of_silent h hn]
  dsimp only
  rw [ofEntries_of_empty hg]
  rfl

-- The heading in a line of the template.
def opening? (line : String) : Option Key :=
  if line = "[input]" then some "input".toList
  else if line = "[output]" then some "output".toList
  else none

-- Lines are written as texts. So that their characters need not be decoded one by one, a line is taken for
-- the text of its characters.
theorem trails_ofList {line : List Char} (h : Trails line) : Trails (String.ofList line).toList := by
  rwa [String.toList_ofList]

-- All lines but the two headings are empty or comments.
theorem trails_of_mem_templateLines :
    ∀ line ∈ templateLines, line ≠ "[input]" → line ≠ "[output]" → Trails line.toList := by
  rw [templateLines]
  repeat' refine List.forall_mem_cons.mpr ⟨?_, ?_⟩
  all_goals first
    | exact fun _ _ => trails_ofList (by decide)
    | exact fun hi => absurd rfl hi
    | exact fun _ ho => absurd rfl ho
    | exact List.forall_mem_nil _

theorem silent_template :
    List.Forall₂ Silent (templateLines.map String.toList) (templateLines.map opening?) := by
  rw [List.forall₂_map_left_iff, List.forall₂_map_right_iff, List.forall₂_same]
  intro line hl
  rw [opening?]
  split_ifs with hi ho
  case pos =>
    subst hi
    exact @Silent.heading "input".toList [] (by decide) (by decide) .nothing
  case pos =>
    subst ho
    exact @Silent.heading "output".toList [] (by decide) (by decide) .nothing
  case neg => exact @Silent.remark [] _ nofun (trails_of_mem_templateLines line hl hi ho)

theorem ofText_template : ofText template.toList = .ok {} := by
  have hl : template.toList = (templateLines.map String.toList).flatMap (· ++ ['\n']) := by
    rw [template, Text.unlines, String.toList_ofList, List.flatMap_map]
  have hr : (templateLines.map opening?).reduceOption = ["input".toList, "output".toList] := by
    decide +kernel
  rw [hl]
  apply ofText_of_silent silent_template <;> rw [hr]
  · decide
  · decide

-- Paths that are not set stay so wherever the file is.
theorem rebase_empty {path : String} : ({} : Settings).rebase path = {} := by
  rw [rebase]
  cases Path.parent? path <;> rfl

theorem ofContent_of_empty {path content : String} (h : ofText content.toList = .ok {}) :
    ofContent path content = .ok {} := by
  rw [ofContent, h]
  exact congrArg Except.ok rebase_empty

theorem ofContent_template {path : String} : ofContent path template = .ok {} :=
  ofContent_of_empty ofText_template

end Settings

-- What a request comes to if nothing but the defaults goes with it.
def Request.alone (r : Request) : Options where
  definitions       := r.definitions
  config            := r.config.getD "defcon.conf"
  artifacts         := r.artifacts
  suppressUndefined := r.suppressUndefined.getD false

theorem Request.complete_empty {r : Request} : r.complete {} = r.alone := by
  have ha (kind : ArtifactKind) : r.addition {} kind = [] := by
    cases kind <;> exact ite_self _
  rw [complete, ha, ha, List.append_nil, List.append_nil]
  simp only [Option.orElse_eq_orElse, Option.orElse_eq_or, Option.or_none]
  rfl

end BuildConfig
