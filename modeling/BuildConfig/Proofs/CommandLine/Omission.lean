import BuildConfig.Proofs.CommandLine.Exit
import BuildConfig.Proofs.CommandLine.Naming
import BuildConfig.Proofs.Text.Lines

namespace BuildConfig
namespace CommandLine

-- Whether a token names a settings file.
def Token.isSettings : Token → Bool
  | .value .settings _ => true
  | _                  => false

-- The arguments less those that name a settings file. What is the value of another option stays
-- with that option, and what comes after two hyphens is no option.
def withoutSettings : List String → List String
  | []               => []
  | argument :: rest =>
    if argument = "--" then argument :: rest
    else if "--settings=".toList <+: argument.toList then withoutSettings rest
    else
      match (Piece.ofArgument argument).waiting, rest with
      | none, rest            => argument :: withoutSettings rest
      | some _, []            => [argument]
      | some _, value :: rest =>
        if argument = "--settings" ∧ isValue value then withoutSettings rest
        else argument :: value :: withoutSettings rest

section
variable {argument word text : String} {option : ValueOption} {c : Char} {cs : List Char}
variable {arguments : List String}

theorem Token.isSettings_value (h : option ≠ .settings) : (Token.value option text).isSettings = false := by
  cases option <;> first | rfl | contradiction

theorem OptionName.ofChar?_ne_settings : ofChar? c ≠ some (.value .settings) := by
  unfold ofChar?
  split <;> decide

theorem OptionName.eq_of_ofWord?_eq_settings (h : ofWord? word = some (.value .settings)) :
    word = "settings" := by
  obtain ⟨before, after, hl, _⟩ := List.lookup_eq_some_iff.mp h
  have hm : (word, OptionName.value .settings) ∈ before ++ (word, .value .settings) :: after :=
    List.mem_append_right before List.mem_cons_self
  rw [← hl] at hm
  simpa using hm

namespace Piece

-- An argument that has nothing to do with settings.
structure NoSettings (p : Piece) : Prop where
  tokens  : ∀ token ∈ p.tokens, token.isSettings = false
  waiting : p.waiting ≠ some .settings

theorem NoSettings.singleton {token : Token} (h : token.isSettings = false) :
    NoSettings ⟨[token], none⟩ :=
  ⟨List.forall_mem_singleton.mpr h, nofun⟩

-- No letter stands for a settings file.
theorem noSettings_ofLetters : (ofLetters cs).NoSettings := by
  induction cs with
  | nil => exact ⟨nofun, nofun⟩
  | cons c cs ih =>
    rw [ofLetters]
    cases hc : OptionName.ofChar? c with
    | none => exact .singleton rfl
    | some name =>
      cases name with
      | help     => exact .singleton rfl
      | switch s => exact ⟨List.forall_mem_cons.mpr ⟨rfl, ih.tokens⟩, ih.waiting⟩
      | value o  =>
        have ho : o ≠ .settings := by
          rintro rfl
          exact OptionName.ofChar?_ne_settings hc
        dsimp only
        split
        case h_1 => exact ⟨nofun, by simpa using ho⟩
        all_goals exact .singleton (Token.isSettings_value ho)

theorem ofWord_settings :
    ofWord ("settings".toList ++ '=' :: cs) = ⟨[.value .settings (String.ofList cs)], none⟩ := by
  have ht : ("settings".toList ++ '=' :: cs).takeWhile (· ≠ '=') = "settings".toList := rfl
  have hd : ("settings".toList ++ '=' :: cs).dropWhile (· ≠ '=') = '=' :: cs := rfl
  have hw : OptionName.ofWord? (String.ofList "settings".toList) = some (.value .settings) := by
    decide
  simp only [ofWord, ht, hd, hw]

theorem noSettings_ofWord
    (h : OptionName.ofWord? (String.ofList (cs.takeWhile (· ≠ '='))) ≠ some (.value .settings)) :
    (ofWord cs).NoSettings := by
  have ho {o} (he : OptionName.ofWord? (String.ofList (cs.takeWhile (· ≠ '='))) = some (.value o)) :
      o ≠ .settings := by
    rintro rfl
    exact h he
  unfold ofWord
  dsimp only
  split
  case h_2 he _ => exact ⟨nofun, fun hw => ho he (Option.some.inj hw)⟩
  case h_3 he _ => exact .singleton (Token.isSettings_value (ho he))
  all_goals exact .singleton rfl

-- What stands behind the name of the option starts with an equals sign if it is not empty.
theorem eq_of_ofWord?_eq_settings
    (h : OptionName.ofWord? (String.ofList (cs.takeWhile (· ≠ '='))) = some (.value .settings)) :
    cs = "settings".toList ∨ ∃ text, cs = "settings".toList ++ '=' :: text := by
  have hw : cs.takeWhile (· ≠ '=') = "settings".toList := by
    rw [← OptionName.eq_of_ofWord?_eq_settings h, String.toList_ofList]
  have hs : "settings".toList ++ cs.dropWhile (· ≠ '=') = cs :=
    hw ▸ List.takeWhile_append_dropWhile
  have hd := List.head?_dropWhile_not (· ≠ '=') cs
  cases ht : cs.dropWhile (· ≠ '=') with
  | nil => exact .inl (by rw [← hs, ht, List.append_nil])
  | cons d text =>
    rw [ht] at hd
    obtain rfl : d = '=' := by simpa using hd
    exact .inr ⟨text, by rw [← hs, ht]⟩

theorem ofArgument_settings : ofArgument "--settings" = ⟨[], some .settings⟩ := by
  decide

theorem isPrefix_settings_iff :
    "--settings=".toList <+: argument.toList ↔ ∃ text, argument = "--settings=" ++ text := by
  constructor
  case mp =>
    rintro ⟨text, ht⟩
    have hl : (String.ofList text).toList = text := String.toList_ofList
    exact ⟨String.ofList text, String.toList_injective (by rw [← ht, String.toList_append, hl])⟩
  case mpr =>
    rintro ⟨text, rfl⟩
    rw [String.toList_append]
    exact List.prefix_append _ _

theorem ofArgument_settings_append :
    ofArgument ("--settings=" ++ text) = ⟨[.value .settings text], none⟩ := by
  have ht : ("--settings=" ++ text).toList = '-' :: '-' :: ("settings".toList ++ '=' :: text.toList) :=
    String.toList_append
  rw [ofArgument, ht]
  change ofWord _ = _
  rw [ofWord_settings, String.ofList_toList]

-- There are two ways to name a settings file.
theorem noSettings_or (argument : String) :
    (ofArgument argument).NoSettings ∨ argument = "--settings" ∨
      "--settings=".toList <+: argument.toList := by
  unfold ofArgument
  split
  case h_1 cs hc =>
    by_cases h : OptionName.ofWord? (String.ofList (cs.takeWhile (· ≠ '='))) = some (.value .settings)
    case neg => exact .inl (noSettings_ofWord h)
    case pos =>
      rcases eq_of_ofWord?_eq_settings h with rfl | ⟨text, rfl⟩
      case inl => exact .inr (.inl (String.toList_injective hc))
      case inr => exact .inr (.inr ⟨text, hc.symm⟩)
  case h_2 => exact .inl noSettings_ofLetters
  case h_3 => exact .inl (.singleton rfl)

section
variable (hn : ¬"--settings=".toList <+: argument.toList)
include hn

theorem waiting_ne_settings (hs : argument ≠ "--settings") :
    (ofArgument argument).waiting ≠ some .settings := by
  rcases noSettings_or argument with h | h | h
  case inl     => exact h.waiting
  case inr.inl => exact absurd h hs
  case inr.inr => exact absurd h hn

theorem filter_tokens :
    (ofArgument argument).tokens.filter (!·.isSettings) = (ofArgument argument).tokens := by
  rw [List.filter_eq_self]
  intro token ht
  rcases noSettings_or argument with h | rfl | h
  case inl     => rw [h.tokens token ht, Bool.not_false]
  case inr.inl =>
    rw [ofArgument_settings] at ht
    cases ht
  case inr.inr => exact absurd h hn

end
end Piece

section
variable {rest : List String} {value : String}
variable (hn : argument ≠ "--")
include hn

theorem tokens_cons (hw : (Piece.ofArgument argument).waiting = none) :
    tokens (argument :: rest) = (Piece.ofArgument argument).tokens ++ tokens rest := by
  rw [tokens, if_neg hn]
  simp only [hw]

theorem tokens_singleton (hw : (Piece.ofArgument argument).waiting = some option) :
    tokens [argument] = (Piece.ofArgument argument).tokens ++ [.fault (.valueMissing option)] := by
  rw [tokens, if_neg hn]
  simp only [hw]

theorem tokens_cons_cons (hw : (Piece.ofArgument argument).waiting = some option) :
    tokens (argument :: value :: rest) =
      (Piece.ofArgument argument).tokens ++
        if isValue value then .value option value :: tokens rest
        else [.fault (.valueMissing option)] := by
  rw [tokens, if_neg hn]
  simp only [hw]
  split <;> rfl

end

-- Nothing but the tokens that name a settings file goes with the arguments for it. The cases are those
-- of leaving them out: the end, two hyphens, a value behind an equals sign, an argument that waits for
-- nothing, and one that waits for a value, which is missing, names a settings file or does not.
theorem tokens_withoutSettings :
    tokens (withoutSettings arguments) = (tokens arguments).filter (!·.isSettings) := by
  fun_induction withoutSettings arguments with
  | case1 => rfl
  | case2 rest =>
    rw [tokens, if_pos rfl, List.filter_map]
    congr 1
    exact (List.filter_eq_self.mpr fun _ _ => rfl).symm
  | case3 argument rest hd hs ih =>
    obtain ⟨text, rfl⟩ := Piece.isPrefix_settings_iff.mp hs
    have hp := @Piece.ofArgument_settings_append text
    rw [ih, tokens_cons hd (by rw [hp]), hp]
    rfl
  | case4 argument hd hs rest hw ih =>
    rw [tokens_cons hd hw, tokens_cons hd hw, List.filter_append, Piece.filter_tokens hs, ih]
  | case5 argument hd hs option hw =>
    rw [tokens_singleton hd hw, List.filter_append, Piece.filter_tokens hs]
    rfl
  | case6 argument hd hs option value rest hw h ih =>
    obtain ⟨rfl, hv⟩ := h
    obtain rfl : .settings = option := Option.some.inj hw
    rw [tokens_cons_cons hd hw, if_pos hv, Piece.ofArgument_settings, ih]
    rfl
  | case7 argument hd hs option value rest hw h ih =>
    rw [tokens_cons_cons hd hw, tokens_cons_cons hd hw, List.filter_append, Piece.filter_tokens hs]
    congr 1
    by_cases hv : isValue value
    case neg => rw [if_neg hv, if_neg hv]; rfl
    case pos =>
      have ho : option ≠ .settings := by
        rintro rfl
        exact Piece.waiting_ne_settings hs (fun ha => h ⟨ha, hv⟩) hw
      rw [if_pos hv, if_pos hv, List.filter_cons_of_pos, ih]
      rw [Token.isSettings_value ho, Bool.not_false]

example :
    withoutSettings ["-sC", "config.h", "--settings=board.toml", "port.def", "--", "--settings=x"] =
      ["-sC", "config.h", "port.def", "--", "--settings=x"] := by
  decide

end

namespace Invocation
variable {i j : Invocation} {token : Token} {ts : List Token} {arguments : List String}

-- What a token can add to a command.
inductive Adds (i : Invocation) : Token → Invocation → Prop
  | definition {path} (h : path ≠ "") :
    Adds i (.definition path) { i with definitions := i.definitions ++ [path] }
  | header {path} (h : path ≠ "") :
    Adds i (.value .header path) { i with artifacts := i.artifacts ++ [⟨.header, path⟩] }
  | makefile {path} (h : path ≠ "") :
    Adds i (.value .makefile path) { i with artifacts := i.artifacts ++ [⟨.makefile, path⟩] }
  | config {path} (h : path ≠ "") (hc : i.config = none) :
    Adds i (.value .config path) { i with config := some path }
  | settings {path} (h : path ≠ "") (hs : i.settings = none) :
    Adds i (.value .settings path) { i with settings := some path }
  | switch {s} (h : s ∉ i.switches) :
    Adds i (.switch s) { i with switches := i.switches ++ [s] }

theorem add_eq_ok_iff : i.add token = .ok j ↔ i.Adds token j := by
  constructor
  case mp =>
    intro h
    cases token with
    | definition path =>
      obtain ⟨hp, h⟩ := ite_throw_eq_ok_iff.mp h
      cases h
      exact .definition hp
    | value option path =>
      obtain ⟨hp, h⟩ := ite_throw_eq_ok_iff.mp h
      have h := mapError_eq_ok_iff.mp h
      cases option with
      | header   => cases h; exact .header hp
      | makefile => cases h; exact .makefile hp
      | config   =>
        obtain ⟨hc, h⟩ := ite_throw_eq_ok_iff.mp h
        cases h
        exact .config hp (Option.not_isSome_iff_eq_none.mp hc)
      | settings =>
        obtain ⟨hs, h⟩ := ite_throw_eq_ok_iff.mp h
        cases h
        exact .settings hp (Option.not_isSome_iff_eq_none.mp hs)
    | switch s =>
      obtain ⟨hs, h⟩ := ite_throw_eq_ok_iff.mp h
      cases h
      exact .switch hs
    | help    => cases h
    | fault e => cases h
  case mpr =>
    intro h
    cases h <;> simp_all [add, withValue, Except.mapError]

-- The command without its settings file.
def withoutSettings (i : Invocation) : Invocation :=
  { i with settings := none }

namespace Adds

theorem eq_of_isSettings (h : i.Adds token j) (ht : token.isSettings) :
    ∃ path, token = .value .settings path ∧ i.settings = none ∧ j = { i with settings := some path } := by
  cases h with
  | settings _ hs => exact ⟨_, rfl, hs, rfl⟩
  | _             => cases ht

-- A token that has nothing to do with settings leaves them alone and never looks at them.
theorem of_not_isSettings (h : i.Adds token j) (ht : token.isSettings = false) :
    i.withoutSettings.Adds token j.withoutSettings ∧ j.settings = i.settings := by
  cases h with
  | definition h => exact ⟨.definition h, rfl⟩
  | header h     => exact ⟨.header h, rfl⟩
  | makefile h   => exact ⟨.makefile h, rfl⟩
  | config h hc  => exact ⟨.config h hc, rfl⟩
  | settings h   => cases ht
  | switch h     => exact ⟨.switch h, rfl⟩

end Adds

-- What is true of every token is true of all of them.
theorem foldlM_add_withoutSettings (h : ts.foldlM add i = .ok j) :
    (ts.filter (!·.isSettings)).foldlM add i.withoutSettings = .ok j.withoutSettings := by
  induction ts generalizing i with
  | nil =>
    cases h
    rfl
  | cons token ts ih =>
    rw [List.foldlM_cons] at h
    obtain ⟨next, ha, h⟩ := bind_eq_ok_iff.mp h
    have ha := add_eq_ok_iff.mp ha
    cases ht : token.isSettings with
    | true =>
      obtain ⟨path, rfl, _, rfl⟩ := ha.eq_of_isSettings ht
      have h := ih h
      exact h
    | false =>
      have hn := (ha.of_not_isSettings ht).left
      rw [List.filter_cons_of_pos (by rw [ht, Bool.not_false]), List.foldlM_cons]
      exact bind_eq_ok_iff.mpr ⟨_, add_eq_ok_iff.mpr hn, ih h⟩

-- Settings are named once at most.
theorem filter_isSettings_of_foldlM_add (h : ts.foldlM add i = .ok j) :
    i.settings.toList.map (.value .settings) ++ ts.filter (·.isSettings) =
      j.settings.toList.map (.value .settings) := by
  induction ts generalizing i with
  | nil =>
    cases h
    exact List.append_nil _
  | cons token ts ih =>
    rw [List.foldlM_cons] at h
    obtain ⟨next, ha, h⟩ := bind_eq_ok_iff.mp h
    have ha := add_eq_ok_iff.mp ha
    cases ht : token.isSettings with
    | true =>
      obtain ⟨path, rfl, hi, rfl⟩ := ha.eq_of_isSettings ht
      rw [hi, ← ih h]
      rfl
    | false =>
      rw [List.filter_cons_of_neg (by rw [ht]; decide), ← (ha.of_not_isSettings ht).right, ih h]

theorem ofArguments_withoutSettings (h : ofArguments arguments = .ok i) :
    ofArguments (CommandLine.withoutSettings arguments) = .ok i.withoutSettings := by
  rw [ofArguments, tokens_withoutSettings]
  exact foldlM_add_withoutSettings h

theorem filter_isSettings_of_ofArguments (h : ofArguments arguments = .ok i) :
    (tokens arguments).filter (·.isSettings) = i.settings.toList.map (.value .settings) :=
  filter_isSettings_of_foldlM_add h

end Invocation

variable {tree : FileTree} {palette : Palette} {i : Invocation} {path : String} {e : Settings.Error}

theorem loadSettings_tree_of_error (h : tree.settingsAt path = .error e) :
    (loadSettings (some path) : StateM FileTree _) tree =
      (⟨{}, [.unusableSettings path e]⟩, tree) := by
  have h : (shown tree).settingsAt path = .error e := h
  simp only [loadSettings, bind, StateT.bind, Settings.load_shown, h]
  rfl

-- Settings that cannot be loaded make no difference but for a warning in front of all others.
theorem generate_tree_of_unusable (hs : i.settings = some path) (he : tree.settingsAt path = .error e) :
    let s := (generate palette i : StateM FileTree _) tree
    let t := (generate palette i.withoutSettings : StateM FileTree _) tree
    s = ({ t.1 with notices := .warning (.unusableSettings path e) :: t.1.notices }, t.2) := by
  have hq : i.withoutSettings.request = i.request := rfl
  have hn : (loadSettings i.withoutSettings.settings : StateM FileTree _) tree = (⟨{}, []⟩, tree) :=
    rfl
  obtain ⟨result, written, hr⟩ : ∃ result written,
      (run (i.request.complete {}) : StateM FileTree _) tree = (result, written) := ⟨_, _, rfl⟩
  simp only [generate, bind, StateT.bind, hs, loadSettings_tree_of_error he, hq, hn, hr]
  cases result.value <;> rfl

-- A command with settings that cannot be loaded fares as it does without them. It gives one more
-- warning, which comes before everything else that it tells.
theorem execute_without_settings {env : Environment} {arguments : List String}
    (h : Invocation.ofArguments arguments = .ok i) (hs : i.settings = some path)
    (hv : .version ∉ i.switches) (hi : .init ∉ i.switches)
    (he : ((Settings.load path : StateM FileTree _) tree).1 = .error e) :
    let s := (execute env arguments : StateM FileTree _) tree
    let t := (execute env (withoutSettings arguments) : StateM FileTree _) tree
    let w := Warning.unusableSettings path e
    (tokens arguments).filter (·.isSettings) = [.value .settings path] ∧
      tokens (withoutSettings arguments) = (tokens arguments).filter (!·.isSettings) ∧
      Invocation.ofArguments (withoutSettings arguments) = .ok { i with settings := none } ∧
      s.1.exitCode = t.1.exitCode ∧
      s.1.output = t.1.output ∧
      s.2 = t.2 ∧
      w.source = path ∧
      s.1.notices = .warning w :: t.1.notices ∧
      s.1.errorOutput = (Notice.warning w).line s.1.palette ++ "\n" ++ t.1.errorOutput := by
  have he : tree.settingsAt path = .error e := by rwa [Settings.load_shown] at he
  have ho : Invocation.ofArguments (withoutSettings arguments) = .ok i.withoutSettings :=
    Invocation.ofArguments_withoutSettings h
  have hp := Invocation.filter_isSettings_of_ofArguments h
  rw [hs] at hp
  have hg := @generate_tree_of_unusable tree (i.palette env) i path e hs he
  have ht : (execute env (withoutSettings arguments) : StateM FileTree _) tree =
      (generate (i.palette env) i.withoutSettings : StateM FileTree _) tree := by
    rw [execute_of_generate ho hv hi]
    rfl
  dsimp only
  rw [execute_of_generate h hv hi, ht, hg]
  exact ⟨hp, tokens_withoutSettings, ho, rfl, rfl, rfl, rfl, rfl, Text.unlines_cons⟩

theorem execute_without_settings_brandedTree :
    let s := (execute {} brandedArguments : StateM FileTree _) brandedTree
    let t := (execute {} ["-Cconfig.h", "-csite.conf", "port.def"] : StateM FileTree _) brandedTree
    s.1.exitCode = t.1.exitCode ∧
      s.1.output = t.1.output ∧
      s.2 = t.2 ∧
      s.1.notices =
        .warning (.unusableSettings "board.toml" (.notAnIdentifier .guard "BOARD_H\n")) ::
          t.1.notices := by
  have hi : Invocation.ofArguments brandedArguments = .ok brandedInvocation := by decide +kernel
  have he : ((Settings.load "board.toml" : StateM FileTree _) brandedTree).1 =
      .error (.notAnIdentifier .guard "BOARD_H\n") := by
    decide +kernel
  have hw : withoutSettings brandedArguments = ["-Cconfig.h", "-csite.conf", "port.def"] := by
    decide +kernel
  have ⟨_, _, _, hc, ho, ht, _, hn, _⟩ :=
    @execute_without_settings brandedTree _ "board.toml" _ {} _ hi rfl (by decide) (by decide) he
  rw [hw] at hc ho ht hn
  exact ⟨hc, ho, ht, hn⟩

end CommandLine
end BuildConfig
