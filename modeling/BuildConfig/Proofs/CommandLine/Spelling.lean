import BuildConfig.Proofs.CommandLine.Omission

namespace BuildConfig
namespace CommandLine

-- Whether a token is part of a command. The others tell why there is none.
def Token.isPart : Token → Bool
  | .help    => false
  | .fault _ => false
  | _        => true

-- Letters behind a hyphen, what they say, and the option that still waits for its value. Any number of
-- switches goes before an option with a value. All that comes after the letter of that option is the value,
-- less an equals sign in front.
inductive Letters : List Char → List Token → Option ValueOption → Prop
  | nil : Letters [] [] none
  | switch {c cs s ts waiting} (hc : OptionName.ofChar? c = some (.switch s))
    (h : Letters cs ts waiting) : Letters (c :: cs) (.switch s :: ts) waiting
  | waiting {c o} (hc : OptionName.ofChar? c = some (.value o)) : Letters [c] [] (some o)
  | equals {c o cs} (hc : OptionName.ofChar? c = some (.value o)) :
    Letters (c :: '=' :: cs) [.value o (String.ofList cs)] none
  | joined {c d o cs} (hc : OptionName.ofChar? c = some (.value o)) (hd : d ≠ '=') :
    Letters (c :: d :: cs) [.value o (String.ofList (d :: cs))] none

-- What a single argument says, and the option in it that waits for its value.
inductive Writes : String → List Token → Option ValueOption → Prop
  | definition {path} (h : isValue path) : Writes path [.definition path] none
  | switch {word s} (hw : OptionName.ofWord? word = some (.switch s)) :
    Writes ("--" ++ word) [.switch s] none
  | waiting {word o} (hw : OptionName.ofWord? word = some (.value o)) :
    Writes ("--" ++ word) [] (some o)
  | equals {word o text} (hw : OptionName.ofWord? word = some (.value o)) :
    Writes ("--" ++ word ++ "=" ++ text) [.value o text] none
  | letters {c cs ts waiting} (h : Letters (c :: cs) ts waiting) :
    Writes (String.ofList ('-' :: c :: cs)) ts waiting

-- What arguments say from left to right. An option that waits takes the next argument for its value, and
-- after two hyphens there are definitions only.
inductive Spells : List String → List Token → Prop
  | nil : Spells [] []
  | definitions {paths} : Spells ("--" :: paths) (paths.map .definition)
  | whole {argument rest ts us} (hw : Writes argument ts none) (h : Spells rest us) :
    Spells (argument :: rest) (ts ++ us)
  | parted {argument value rest ts us o} (hw : Writes argument ts (some o)) (hv : isValue value)
    (h : Spells rest us) : Spells (argument :: value :: rest) (ts ++ .value o value :: us)

variable {argument word text : String} {arguments : List String} {cs : List Char}
variable {ts : List Token} {o : ValueOption} {waiting : Option ValueOption} {name : OptionName}

namespace Letters

theorem ofLetters_eq (h : Letters cs ts waiting) :
    Piece.ofLetters cs = ⟨ts, waiting⟩ ∧ ∀ t ∈ ts, t.isPart := by
  induction h with
  | nil => exact ⟨rfl, nofun⟩
  | switch hc _ ih =>
    have ⟨ih, hp⟩ := ih
    rw [Piece.ofLetters, hc]
    dsimp only
    rw [ih]
    exact ⟨rfl, List.forall_mem_cons.mpr ⟨rfl, hp⟩⟩
  | waiting hc =>
    rw [Piece.ofLetters, hc]
    exact ⟨rfl, nofun⟩
  | equals hc =>
    rw [Piece.ofLetters, hc]
    exact ⟨rfl, List.forall_mem_singleton.mpr rfl⟩
  | @joined c d o cs hc hd =>
    rw [Piece.ofLetters, hc]
    refine ⟨?_, List.forall_mem_singleton.mpr rfl⟩
    dsimp only
    split
    case h_1 he => cases he
    case h_2 he => exact absurd (List.cons.inj he).left hd
    case h_3    => rfl

theorem of_ofLetters (h : Piece.ofLetters cs = ⟨ts, waiting⟩) (hp : ∀ t ∈ ts, t.isPart) :
    Letters cs ts waiting := by
  induction cs generalizing ts with
  | nil =>
    cases h
    exact .nil
  | cons c cs ih =>
    rw [Piece.ofLetters] at h
    cases hc : OptionName.ofChar? c with
    | none =>
      rw [hc] at h
      cases h
      exact absurd (hp _ List.mem_cons_self) Bool.false_ne_true
    | some name =>
      rw [hc] at h
      cases name with
      | help =>
        cases h
        exact absurd (hp _ List.mem_cons_self) Bool.false_ne_true
      | switch s =>
        cases h
        exact .switch hc (ih rfl (List.forall_mem_cons.mp hp).right)
      | value o =>
        dsimp only at h
        split at h
        case h_1 =>
          cases h
          exact .waiting hc
        case h_2 =>
          cases h
          exact .equals hc
        case h_3 hn he =>
          cases h
          cases cs with
          | nil       => exact absurd rfl hn
          | cons d cs => exact .joined hc fun hd => he cs (hd ▸ rfl)

end Letters

theorem letters_iff :
    Letters cs ts waiting ↔ Piece.ofLetters cs = ⟨ts, waiting⟩ ∧ ∀ t ∈ ts, t.isPart :=
  ⟨Letters.ofLetters_eq, fun ⟨h, hp⟩ => .of_ofLetters h hp⟩

-- No name of an option has an equals sign in it, and every one of them has a letter.
theorem OptionName.word_of_ofWord? (h : ofWord? word = some name) :
    '=' ∉ word.toList ∧ word ≠ "" := by
  obtain ⟨before, after, hl, _⟩ := List.lookup_eq_some_iff.mp h
  have hm : (word, name) ∈ before ++ (word, name) :: after :=
    List.mem_append_right before List.mem_cons_self
  rw [← hl] at hm
  simp only [List.mem_cons, List.not_mem_nil, or_false, Prod.mk.injEq] at hm
  rcases hm with ⟨rfl, _⟩ | ⟨rfl, _⟩ | ⟨rfl, _⟩ | ⟨rfl, _⟩ | ⟨rfl, _⟩ | ⟨rfl, _⟩ <;> decide

namespace Piece

theorem ofArgument_of_hyphens (h : argument.toList = '-' :: '-' :: cs) :
    ofArgument argument = ofWord cs := by
  rw [ofArgument, h]
  rfl

-- The name of an option ends at the first equals sign.
theorem takeWhile_word (rest : List Char) (hw : OptionName.ofWord? word = some name)
    (hr : ∀ c ∈ rest.head?, c = '=') :
    (word.toList ++ rest).takeWhile (· ≠ '=') = word.toList ∧
      (word.toList ++ rest).dropWhile (· ≠ '=') = rest :=
  have hn : '=' ∉ word.toList := (OptionName.word_of_ofWord? hw).left
  Text.Run.eq (fun _ => decide_eq_true_iff)
    ⟨rfl, fun _ hc he => hn (he ▸ hc), fun c hc he => he (hr c hc)⟩

theorem ofArgument_word (hw : OptionName.ofWord? word = some name) :
    ofArgument ("--" ++ word) =
      match name with
      | .value o  => ⟨[], some o⟩
      | .switch s => ⟨[.switch s], none⟩
      | .help     => ⟨[.help], none⟩ := by
  have ha : ("--" ++ word).toList = '-' :: '-' :: word.toList := String.toList_append
  have ⟨ht, hd⟩ := takeWhile_word [] hw nofun
  rw [List.append_nil] at ht hd
  rw [ofArgument_of_hyphens ha]
  simp only [ofWord, ht, hd, String.ofList_toList, hw]
  cases name <;> rfl

theorem ofArgument_equals (hw : OptionName.ofWord? word = some (.value o)) :
    ofArgument ("--" ++ word ++ "=" ++ text) = ⟨[.value o text], none⟩ := by
  have ha : ("--" ++ word ++ "=" ++ text).toList =
      '-' :: '-' :: (word.toList ++ '=' :: text.toList) := by simp
  have ⟨ht, hd⟩ := takeWhile_word ('=' :: text.toList) hw (by simp)
  rw [ofArgument_of_hyphens ha]
  simp only [ofWord, ht, hd, String.ofList_toList, hw]

end Piece

namespace Writes

theorem ofArgument_eq (h : Writes argument ts waiting) :
    Piece.ofArgument argument = ⟨ts, waiting⟩ ∧ ∀ t ∈ ts, t.isPart := by
  cases h with
  | definition h =>
    refine ⟨?_, List.forall_mem_singleton.mpr rfl⟩
    rcases of_decide_eq_true h with rfl | h
    case inl => rfl
    case inr =>
      unfold Piece.ofArgument
      split
      case h_1 hc => simp [hc] at h
      case h_2 hc => simp [hc] at h
      case h_3    => rfl
  | switch hw  => exact ⟨Piece.ofArgument_word hw, List.forall_mem_singleton.mpr rfl⟩
  | waiting hw => exact ⟨Piece.ofArgument_word hw, nofun⟩
  | equals hw  => exact ⟨Piece.ofArgument_equals hw, List.forall_mem_singleton.mpr rfl⟩
  | @letters c cs ts waiting h =>
    have hc : c ≠ '-' := by
      rintro rfl
      cases h <;> contradiction
    rw [Piece.ofArgument, String.toList_ofList]
    split
    case h_1 he => exact absurd (List.cons.inj (List.cons.inj he).right).left hc
    case h_2 he =>
      cases he
      exact letters_iff.mp h
    case h_3 he => exact absurd rfl (he c cs)

theorem of_ofWord (h : Piece.ofWord cs = ⟨ts, waiting⟩) (hp : ∀ t ∈ ts, t.isPart) :
    Writes ("--" ++ String.ofList cs) ts waiting := by
  have hs : cs.takeWhile (· ≠ '=') ++ cs.dropWhile (· ≠ '=') = cs := List.takeWhile_append_dropWhile
  have hr := List.head?_dropWhile_not (· ≠ '=') cs
  unfold Piece.ofWord at h
  dsimp only at h
  split at h
  case h_2 o hw hd =>
    cases h
    rw [hd, List.append_nil] at hs
    exact hs ▸ waiting hw
  case h_3 o c text hw hd =>
    cases h
    rw [hd] at hs hr
    obtain rfl : c = '=' := by simpa using hr
    have ht : String.ofList cs = String.ofList (cs.takeWhile (· ≠ '=')) ++ "=" ++ String.ofList text := by
      apply String.toList_injective
      simp only [String.toList_append, String.toList_ofList]
      simpa using hs.symm
    rw [ht, ← String.append_assoc, ← String.append_assoc]
    exact equals hw
  case h_4 s hw hd =>
    cases h
    rw [hd, List.append_nil] at hs
    exact hs ▸ switch hw
  -- What is left is no part of a command: help, or a text behind a name that takes none.
  all_goals
    cases h
    exact absurd (hp _ List.mem_cons_self) nofun

theorem of_ofArgument (h : Piece.ofArgument argument = ⟨ts, waiting⟩) (hp : ∀ t ∈ ts, t.isPart) :
    Writes argument ts waiting := by
  unfold Piece.ofArgument at h
  split at h
  case h_1 cs hc =>
    have ha : argument = "--" ++ String.ofList cs := by
      apply String.toList_injective
      simp [hc]
    exact ha ▸ of_ofWord h hp
  case h_2 c cs _ hc =>
    have ha : argument = String.ofList ('-' :: c :: cs) := by
      rw [← hc, String.ofList_toList]
    exact ha ▸ .letters (letters_iff.mpr ⟨h, hp⟩)
  case h_3 hw hl =>
    cases h
    refine .definition (decide_eq_true ?_)
    cases hc : argument.toList with
    | nil => exact .inr nofun
    | cons c cs =>
      by_cases hh : c = '-'
      case neg => exact .inr fun he => hh (Option.some.inj he)
      case pos =>
        subst hh
        cases cs with
        | nil       => exact .inl (String.toList_injective hc)
        | cons d cs => exact absurd hc (hl d cs)

end Writes

theorem writes_iff :
    Writes argument ts waiting ↔ Piece.ofArgument argument = ⟨ts, waiting⟩ ∧ ∀ t ∈ ts, t.isPart :=
  ⟨Writes.ofArgument_eq, fun ⟨h, hp⟩ => .of_ofArgument h hp⟩

theorem Writes.ne_hyphens (h : Writes argument ts waiting) : argument ≠ "--" := by
  rintro rfl
  have ⟨ha, hp⟩ := h.ofArgument_eq
  cases ha
  exact absurd (hp _ List.mem_cons_self) nofun

theorem tokens_of_spells (h : Spells arguments ts) :
    tokens arguments = ts ∧ ∀ t ∈ ts, t.isPart := by
  induction h with
  | nil => exact ⟨rfl, List.forall_mem_nil _⟩
  | definitions =>
    rw [tokens, if_pos rfl]
    exact ⟨rfl, List.forall_mem_map.mpr fun _ _ => rfl⟩
  | whole hw _ ih =>
    obtain ⟨ha, hp⟩ := hw.ofArgument_eq
    obtain ⟨ht, hq⟩ := ih
    rw [tokens_cons hw.ne_hyphens (by rw [ha]), ha, ht]
    exact ⟨rfl, List.forall_mem_append.mpr ⟨hp, hq⟩⟩
  | parted hw hv _ ih =>
    obtain ⟨ha, hp⟩ := hw.ofArgument_eq
    obtain ⟨ht, hq⟩ := ih
    rw [tokens_cons_cons hw.ne_hyphens (by rw [ha]), if_pos hv, ha, ht]
    exact ⟨rfl, List.forall_mem_append.mpr ⟨hp, List.forall_mem_cons.mpr ⟨rfl, hq⟩⟩⟩

-- The cases are those of reading: the end, two hyphens, an argument that waits for nothing, and one that
-- waits for a value, which is missing, follows or is no value.
theorem spells_tokens (hp : ∀ t ∈ tokens arguments, t.isPart) :
    Spells arguments (tokens arguments) := by
  fun_induction tokens arguments with
  | case1 => exact .nil
  | case2 => exact .definitions
  | case3 argument hn piece rest hw ih =>
    have ⟨hp, hq⟩ := List.forall_mem_append.mp hp
    exact .whole (writes_iff.mpr ⟨hw ▸ rfl, hp⟩) (ih hq)
  | case4 argument hn piece option hw =>
    have ⟨_, hq⟩ := List.forall_mem_append.mp hp
    exact absurd (hq _ List.mem_cons_self) nofun
  | case5 argument hn piece option value rest hw hv ih =>
    have ⟨hp, hq⟩ := List.forall_mem_append.mp hp
    exact .parted (writes_iff.mpr ⟨hw ▸ rfl, hp⟩) hv (ih (List.forall_mem_cons.mp hq).right)
  | case6 argument hn piece option value rest hw hv =>
    have ⟨_, hq⟩ := List.forall_mem_append.mp hp
    exact absurd (hq _ List.mem_cons_self) nofun

-- Reading finds what is spelled, and there is only one way to understand an argument list.
theorem spells_iff : Spells arguments ts ↔ tokens arguments = ts ∧ ∀ t ∈ ts, t.isPart := by
  constructor
  case mp  => exact tokens_of_spells
  case mpr =>
    rintro ⟨rfl, hp⟩
    exact spells_tokens hp

end CommandLine
end BuildConfig
