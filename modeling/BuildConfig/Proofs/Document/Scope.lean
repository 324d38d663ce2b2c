import BuildConfig.Proofs.Document.Grammar

namespace BuildConfig
namespace Document

open Text

variable {ls : List (List Char)} {i j : Nat}

theorem Latest.succ {p : Nat → Prop} (h : Latest p i j) (hn : ¬p i) : Latest p (i + 1) j where
  lt := Nat.lt_succ_of_lt h.lt
  holds := h.holds
  last k hk hi := by
    rcases Nat.lt_succ_iff_lt_or_eq.mp hi with hi | rfl
    · exact h.last k hk hi
    · exact hn

theorem Latest.self {p : Nat → Prop} (h : p i) : Latest p (i + 1) i where
  lt := Nat.lt_succ_self i
  holds := h
  last _ hk hi := absurd hk (Nat.not_lt.mpr (Nat.le_of_lt_succ hi))

theorem Latest.unique {p : Nat → Prop} {j₁ j₂ : Nat} (h₁ : Latest p i j₁) (h₂ : Latest p i j₂) :
    j₁ = j₂ := by
  rcases Nat.lt_trichotomy j₁ j₂ with h | h | h
  · exact absurd h₂.holds (h₁.last j₂ h h₂.lt)
  · exact h
  · exact absurd h₁.holds (h₂.last j₁ h h₁.lt)

theorem inEntry_succ_iff :
    InEntry ls (i + 1) ↔ role ls i = .pair ∨ (role ls i ≠ .heading ∧ InEntry ls i) := by
  constructor
  · rintro ⟨j, hj, hp, hk⟩
    rcases Nat.lt_succ_iff_lt_or_eq.mp hj with hj | rfl
    · refine .inr ⟨hk i hj (Nat.lt_succ_self i), j, hj, hp, fun k h hi => ?_⟩
      exact hk k h (Nat.lt_succ_of_lt hi)
    · exact .inl hp
  · rintro (hp | ⟨hn, j, hj, hp, hk⟩)
    · exact ⟨i, Nat.lt_succ_self i, hp, fun k h hi => absurd h (by omega)⟩
    · refine ⟨j, Nat.lt_succ_of_lt hj, hp, fun k h hi => ?_⟩
      rcases Nat.lt_succ_iff_lt_or_eq.mp hi with hi | rfl
      · exact hk k h hi
      · exact hn

-- The key that a line would continue.
inductive PendingAbove (ls : List (List Char)) (i : Nat) : Option String → Prop
  | none (h : ¬InEntry ls i) : PendingAbove ls i none
  | some {j before after} (h : InEntry ls i) (hj : Latest (role ls · = .pair) i j)
    (hs : SplitsAt isDelimiter (trimStart (lineAt ls j)) before after) :
    PendingAbove ls i (some (String.ofList (trim before)))

-- What the scope between two lines says about the lines before it.
structure Scope.At (ls : List (List Char)) (i : Nat) (s : Scope) : Prop where
  heading : HeadingAbove ls i s.heading
  pending : PendingAbove ls i s.pending

theorem HeadingAbove.succ {name : String} (h : HeadingAbove ls i name) (hr : role ls i ≠ .heading) :
    HeadingAbove ls (i + 1) name := by
  cases h with
  | none h =>
    refine .none fun j hj => ?_
    rcases Nat.lt_succ_iff_lt_or_eq.mp hj with hj | rfl
    · exact h j hj
    · exact hr
  | some hj hn => exact .some (hj.succ hr) hn

theorem PendingAbove.succ {pending : Option String} (h : PendingAbove ls i pending)
    (hh : role ls i ≠ .heading) (hp : role ls i ≠ .pair) : PendingAbove ls (i + 1) pending := by
  cases h with
  | none h =>
    refine .none fun hi => ?_
    rcases inEntry_succ_iff.mp hi with hp' | ⟨_, hi⟩
    · exact hp hp'
    · exact h hi
  | some h hj hs => exact .some (inEntry_succ_iff.mpr (.inr ⟨hh, h⟩)) (hj.succ hp) hs

namespace Scope.At

variable {s : Scope}

theorem start : ({} : Scope).At ls 0 where
  heading := .none fun j hj => absurd hj (Nat.not_lt_zero j)
  pending := .none fun ⟨j, hj, _⟩ => absurd hj (Nat.not_lt_zero j)

theorem succ (h : s.At ls i) (hh : role ls i ≠ .heading) (hp : role ls i ≠ .pair) :
    s.At ls (i + 1) where
  heading := h.heading.succ hh
  pending := h.pending.succ hh hp

theorem succ_heading {name : String} (hr : role ls i = .heading)
    (hn : HeadingText (lineAt ls i) name) : ({ heading := name } : Scope).At ls (i + 1) where
  heading := .some (.self hr) hn
  pending := .none fun hi => by simp [inEntry_succ_iff, hr] at hi

theorem succ_pair {before after : List Char} (h : s.At ls i) (hr : role ls i = .pair)
    (hs : SplitsAt isDelimiter (trimStart (lineAt ls i)) before after) :
    ({ s with pending := some (String.ofList (trim before)) } : Scope).At ls (i + 1) where
  heading := h.heading.succ (by simp [hr])
  pending := .some (inEntry_succ_iff.mpr (.inl hr)) (.self hr) hs

theorem pending_isSome (h : s.At ls i) : s.pending.isSome ↔ InEntry ls i := by
  have hp := h.pending
  cases hs : s.pending <;> rw [hs] at hp <;> cases hp
  case none hn       => simp [hn]
  case some hi hj hs => simp [hi]

end Scope.At

end Document
end BuildConfig
