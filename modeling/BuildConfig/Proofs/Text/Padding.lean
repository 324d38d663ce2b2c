import BuildConfig.Proofs.Text.Lines
import Mathlib.Data.List.Forall2

namespace BuildConfig
namespace Text

-- A line with blanks behind it.
def Padded (line padded : List Char) : Prop :=
  ∃ pad, (∀ c ∈ pad, isBlank c) ∧ padded = line ++ pad

variable {line padded cs : List Char} {c : Char} {lines : List (List Char)}

namespace Padded

theorem cons (h : Padded line padded) : Padded (c :: line) (c :: padded) := by
  obtain ⟨pad, hb, rfl⟩ := h
  exact ⟨pad, hb, rfl⟩

theorem trimEnd_eq (h : Padded line padded) : trimEnd padded = trimEnd line := by
  obtain ⟨pad, hb, rfl⟩ := h
  rw [trimEnd, trimEnd, List.reverse_append, List.dropWhile_append_of_pos]
  exact fun c hc => hb c (List.mem_reverse.mp hc)

-- What is no blank starts the line if it starts the padded one.
theorem head?_iff (h : Padded line padded) (hc : isBlank c = false) :
    padded.head? = some c ↔ line.head? = some c := by
  obtain ⟨pad, hb, rfl⟩ := h
  cases line with
  | cons d ds => rfl
  | nil =>
    refine iff_of_false (fun hp => ?_) nofun
    simp [hb c (List.mem_of_mem_head? hp)] at hc

end Padded

theorem forall₂_padded_mapIdx {pad : Nat → List Char} (h : ∀ i, ∀ c ∈ pad i, isBlank c) :
    List.Forall₂ Padded lines (lines.mapIdx fun i line => line ++ pad i) := by
  induction lines generalizing pad with
  | nil => exact .nil
  | cons line lines ih =>
    rw [List.mapIdx_cons]
    exact .cons ⟨pad 0, h 0, rfl⟩ (ih fun i => h (i + 1))

-- No blank behind a line ends it early.
theorem forall₂_padded_joinLines {text : String} {pad : Nat → List Char}
    (h : ∀ i, ∀ c ∈ pad i, isBlank c ∧ c ≠ '\n') :
    List.Forall₂ Padded (splitLines text)
      (splitLines (joinLines ((splitLines text).mapIdx fun i line => line ++ pad i))) := by
  have hn : (splitLines text).mapIdx (fun i line => line ++ pad i) ≠ [] :=
    mt List.mapIdx_eq_nil_iff.mp (List.splitOn_ne_nil _ _)
  rw [splitLines_joinLines hn]
  · exact forall₂_padded_mapIdx fun i c hc => (h i c hc).left
  · intro l hl
    obtain ⟨i, hi, rfl⟩ := List.mem_mapIdx.mp hl
    rw [List.mem_append]
    rintro (hm | hm)
    · exact not_mem_of_mem_splitOn (List.getElem_mem hi) hm
    · exact (h i _ hm).right rfl

theorem forall₂_padded_modifyHead {others : List (List Char)} (h : List.Forall₂ Padded lines others) :
    List.Forall₂ Padded (lines.modifyHead (c :: ·)) (others.modifyHead (c :: ·)) := by
  cases h with
  | nil       => exact .nil
  | cons h hs => exact .cons h.cons hs

-- The text with a carriage return before every line feed.
def returnBefore (c : Char) : List Char :=
  if c = '\n' then ['\r', '\n'] else [c]

def withReturns (text : String) : String :=
  String.ofList (text.toList.flatMap returnBefore)

theorem forall₂_padded_returnBefore :
    List.Forall₂ Padded (cs.splitOn '\n') ((cs.flatMap returnBefore).splitOn '\n') := by
  induction cs with
  | nil => exact .cons ⟨[], nofun, rfl⟩ .nil
  | cons c cs ih =>
    rw [List.flatMap_cons, returnBefore, List.splitOn_cons_eq_if_modifyHead]
    by_cases hc : c = '\n'
    case pos =>
      have hr : '\n' ∉ ['\r'] := by decide
      have hs : (['\r', '\n'] ++ cs.flatMap returnBefore).splitOn '\n' =
          ['\r'] :: (cs.flatMap returnBefore).splitOn '\n' :=
        List.splitOn_append_cons_self_of_not_mem hr _
      rw [if_pos hc, if_pos (beq_iff_eq.mpr hc), hs]
      exact .cons ⟨['\r'], List.forall_mem_singleton.mpr (by decide), rfl⟩ ih
    case neg =>
      have hb : ¬(c == '\n') := by simpa using hc
      rw [if_neg hc, if_neg hb, List.singleton_append, List.splitOn_cons_eq_if_modifyHead, if_neg hb]
      exact forall₂_padded_modifyHead ih

theorem forall₂_padded_withReturns {text : String} :
    List.Forall₂ Padded (splitLines text) (splitLines (withReturns text)) := by
  rw [splitLines, splitLines, withReturns, String.toList_ofList]
  exact forall₂_padded_returnBefore

end Text
end BuildConfig
