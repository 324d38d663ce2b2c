import BuildConfig.Proofs.CommandLine.Spelling
import Mathlib.Data.List.Sort

namespace BuildConfig
namespace CommandLine

namespace Token

def definition? : Token → Option String
  | .definition path => some path
  | _                => none

def text? (option : ValueOption) : Token → Option String
  | .value o text => if o = option then some text else none
  | _             => none

def switch? : Token → Option Switch
  | .switch s => some s
  | _         => none

def artifact? : Token → Option Artifact
  | .value .header path   => some ⟨.header, path⟩
  | .value .makefile path => some ⟨.makefile, path⟩
  | _                     => none

end Token

-- The outputs of a kind, told as their paths and, apart from these, the places where they stand.
structure Outputs where
  places : List Nat
  paths : List String

def Outputs.placed (kind : ArtifactKind) (o : Outputs) : List (Nat × Artifact) :=
  o.places.zip (o.paths.map (⟨kind, ·⟩))

-- The outputs of both kinds in the order of their places.
def inOrder (headers makefiles : Outputs) : List Artifact :=
  ((headers.placed .header ++ makefiles.placed .makefile).mergeSort (·.1 ≤ ·.1)).map (·.2)

-- The outputs among tokens of which the n-th stands at the place `place n`.
def placed (place : Nat → Nat) (ts : List Token) : List (Nat × Artifact) :=
  ts.zipIdx.filterMap fun x => x.1.artifact?.map (place x.2, ·)

def outputs (kind : ArtifactKind) (place : Nat → Nat) (ts : List Token) : Outputs where
  places := ((placed place ts).filter (·.2.kind = kind)).map (·.1)
  paths  := ((placed place ts).filter (·.2.kind = kind)).map (·.2.path)

section
variable {place : Nat → Nat} {ts : List Token} {kind : ArtifactKind}

theorem map_snd_placed : (placed place ts).map (·.2) = ts.filterMap Token.artifact? := by
  have hf : ts.filterMap Token.artifact? = (ts.zipIdx.map (·.1)).filterMap Token.artifact? := by
    rw [List.zipIdx_map_fst]
  rw [placed, List.map_filterMap, hf, List.filterMap_map]
  congr 1
  funext x
  cases h : x.1.artifact? <;> simp [h]

-- What stands further to the right has a higher place.
theorem pairwise_placed (hp : StrictMono place) : (placed place ts).Pairwise (·.1 < ·.1) := by
  have hn : ts.zipIdx.Pairwise (·.2 < ·.2) := by
    rw [← List.pairwise_map, List.zipIdx_map_snd]
    exact List.pairwise_lt_range'
  rw [placed, List.pairwise_filterMap]
  refine hn.imp fun hn a ha b hb => ?_
  obtain ⟨_, _, rfl⟩ := Option.map_eq_some_iff.mp ha
  obtain ⟨_, _, rfl⟩ := Option.map_eq_some_iff.mp hb
  exact hp hn

theorem placed_outputs :
    (outputs kind place ts).placed kind = (placed place ts).filter (·.2.kind = kind) := by
  rw [Outputs.placed, outputs, List.map_map, List.zip_map']
  refine (List.map_congr_left fun x hx => ?_).trans (List.map_id _)
  have hk : x.2.kind = kind := of_decide_eq_true (List.mem_filter.mp hx).right
  rw [Function.comp_apply, ← hk]
  rfl

theorem perm_placed :
    ((placed place ts).filter (·.2.kind = .header) ++ (placed place ts).filter (·.2.kind = .makefile)).Perm
      (placed place ts) := by
  have hk (x : Nat × Artifact) : decide (x.2.kind = .makefile) = !decide (x.2.kind = .header) := by
    cases x.2.kind <;> rfl
  simp only [hk]
  exact List.filter_append_perm _ _

-- Headers and makefiles that are told apart are put back into their order by their places.
theorem inOrder_outputs (hp : StrictMono place) :
    inOrder (outputs .header place ts) (outputs .makefile place ts) = ts.filterMap Token.artifact? := by
  have hs : (placed place ts).Pairwise (·.1 < ·.1) := pairwise_placed hp
  have hn : ((placed place ts).map (·.1)).Nodup := List.pairwise_map.mpr (hs.imp Nat.ne_of_lt)
  rw [inOrder, placed_outputs, placed_outputs, ← map_snd_placed]
  generalize hl : (placed place ts).filter (·.2.kind = .header) ++
    (placed place ts).filter (·.2.kind = .makefile) = l
  have hm : (l.mergeSort (·.1 ≤ ·.1)).Perm (placed place ts) :=
    (List.mergeSort_perm _ _).trans (hl ▸ perm_placed)
  have ho : (l.mergeSort (·.1 ≤ ·.1)).Pairwise (·.1 ≤ ·.1) := by
    have := @List.pairwise_mergeSort (Nat × Artifact) (·.1 ≤ ·.1)
      (fun _ _ _ => by simpa using Nat.le_trans) (fun a b => by simpa using Nat.le_total a.1 b.1) l
    simpa using this
  congr 1
  -- No two outputs stand at one place, so there is only one way to put them in order.
  refine hm.eq_of_pairwise (fun a b ha hb hab hba => ?_) ho (hs.imp Nat.le_of_lt)
  exact List.inj_on_of_nodup_map hn (hm.mem_iff.mp ha) hb (Nat.le_antisymm hab hba)

end

namespace Invocation
variable {i j : Invocation} {token : Token} {ts : List Token} {arguments : List String}

-- Where each token adds what it says to a part of the command, that part ends up as what all of them say
-- from left to right.
theorem eq_append_filterMap {α : Type} {part : Invocation → List α} {said : Token → Option α}
    (hs : ∀ {i j token}, Adds i token j → part j = part i ++ (said token).toList)
    (h : ts.foldlM add i = .ok j) : part j = part i ++ ts.filterMap said := by
  induction ts generalizing i with
  | nil =>
    cases h
    exact (List.append_nil _).symm
  | cons token ts ih =>
    rw [List.foldlM_cons] at h
    obtain ⟨next, ha, h⟩ := bind_eq_ok_iff.mp h
    rw [ih h, hs (add_eq_ok_iff.mp ha), List.append_assoc, List.filterMap_cons]
    cases said token <;> rfl

-- A command is what its tokens say.
structure Gathers (ts : List Token) (i : Invocation) : Prop where
  definitions : i.definitions = ts.filterMap Token.definition?
  artifacts   : i.artifacts = ts.filterMap Token.artifact?
  config      : i.config.toList = ts.filterMap (Token.text? .config)
  settings    : i.settings.toList = ts.filterMap (Token.text? .settings)
  switches    : i.switches = ts.filterMap Token.switch?

namespace Adds
variable (h : i.Adds token j)
include h

theorem definitions : j.definitions = i.definitions ++ token.definition?.toList := by
  cases h <;> simp [Token.definition?]

theorem artifacts : j.artifacts = i.artifacts ++ token.artifact?.toList := by
  cases h <;> simp [Token.artifact?]

theorem toList_config : j.config.toList = i.config.toList ++ (token.text? .config).toList := by
  cases h <;> simp_all [Token.text?]

theorem toList_settings : j.settings.toList = i.settings.toList ++ (token.text? .settings).toList := by
  cases h <;> simp_all [Token.text?]

theorem switches : j.switches = i.switches ++ token.switch?.toList := by
  cases h <;> simp [Token.switch?]

end Adds

theorem gathers_of_ofTokens (h : ofTokens ts = .ok i) : Gathers ts i where
  definitions := eq_append_filterMap Adds.definitions h
  artifacts   := eq_append_filterMap Adds.artifacts h
  config      := eq_append_filterMap Adds.toList_config h
  settings    := eq_append_filterMap Adds.toList_settings h
  switches    := eq_append_filterMap Adds.switches h

theorem isPart_of_foldlM_add (h : ts.foldlM add i = .ok j) : ∀ t ∈ ts, t.isPart := by
  induction ts generalizing i with
  | nil => nofun
  | cons token ts ih =>
    rw [List.foldlM_cons] at h
    obtain ⟨next, ha, h⟩ := bind_eq_ok_iff.mp h
    refine List.forall_mem_cons.mpr ⟨?_, ih h⟩
    cases add_eq_ok_iff.mp ha <;> rfl

end Invocation

-- The option that asks for an output of a kind.
def ValueOption.ofKind : ArtifactKind → ValueOption
  | .header   => .header
  | .makefile => .makefile

-- Whether a value is given for an option.
def Names (ts : List Token) (o : ValueOption) : Prop :=
  ∃ text, .value o text ∈ ts

section
variable {ts : List Token} {token : Token} {o : ValueOption} {text : String} {s : Switch} {a : Artifact}

theorem Token.text?_eq_some_iff : token.text? o = some text ↔ token = .value o text := by
  cases token <;> simp [Token.text?, and_comm]

theorem mem_filterMap_text?_iff : text ∈ ts.filterMap (Token.text? o) ↔ .value o text ∈ ts := by
  simp [List.mem_filterMap, Token.text?_eq_some_iff]

theorem mem_filterMap_switch?_iff : s ∈ ts.filterMap Token.switch? ↔ .switch s ∈ ts := by
  have hs {token : Token} : token.switch? = some s ↔ token = .switch s := by
    cases token <;> simp [Token.switch?]
  simp [List.mem_filterMap, hs]

instance : Decidable (Names ts o) :=
  decidable_of_iff (ts.filterMap (Token.text? o) ≠ [])
    ⟨fun h => (List.exists_mem_of_ne_nil _ h).imp fun _ => mem_filterMap_text?_iff.mp,
      fun ⟨_, h⟩ => List.ne_nil_of_mem (mem_filterMap_text?_iff.mpr h)⟩

theorem Token.artifact?_eq_some_iff :
    token.artifact? = some a ↔ token = .value (.ofKind a.kind) a.path := by
  obtain ⟨kind, path⟩ := a
  cases token with
  | value o text => cases o <;> cases kind <;> simp [Token.artifact?, ValueOption.ofKind]
  | _            => simp [Token.artifact?]

end

-- The settings that go with a command: those of the file that it names, if they can be loaded.
structure Loads (tree : FileTree) (ts : List Token) (s : Settings) : Prop where
  named   : ∀ path, .value .settings path ∈ ts →
    s = ((Settings.load path : StateM FileTree _) tree).1.toOption.getD {}
  unnamed : ¬Names ts .settings → s = {}

-- What a command and its settings ask of a run. All outputs of the command come first.
structure Asks (ts : List Token) (s : Settings) (o : Options) : Prop where
  definitions : o.definitions = ts.filterMap Token.definition?
  artifacts   : o.artifacts =
    ts.filterMap Token.artifact? ++
      (if Names ts .header then [] else s.header.toList.map (⟨.header, ·⟩)) ++
      (if Names ts .makefile then [] else s.makefile.toList.map (⟨.makefile, ·⟩))
  givenConfig : ∀ path, .value .config path ∈ ts → o.config = path
  otherConfig : ¬Names ts .config → o.config = s.config.getD "defcon.conf"
  suppressed  : .switch .suppress ∈ ts → o.suppressUndefined = true
  unsuppressed : .switch .suppress ∉ ts → o.suppressUndefined = s.suppressUndefined.getD false

section
variable {tree : FileTree} {i : Invocation} {ts : List Token} {arguments : List String}

namespace Invocation.Gathers
variable (h : i.Gathers ts)
include h

theorem config_eq_some_iff {path : String} : i.config = some path ↔ .value .config path ∈ ts := by
  rw [← mem_filterMap_text?_iff, ← h.config, Option.mem_toList]

theorem settings_eq_some_iff {path : String} :
    i.settings = some path ↔ .value .settings path ∈ ts := by
  rw [← mem_filterMap_text?_iff, ← h.settings, Option.mem_toList]

theorem mem_switches_iff {s : Switch} : s ∈ i.switches ↔ .switch s ∈ ts := by
  rw [h.switches, mem_filterMap_switch?_iff]

theorem asksFor_iff {kind : ArtifactKind} : i.request.asksFor kind ↔ Names ts (.ofKind kind) := by
  have ha : i.request.artifacts = ts.filterMap Token.artifact? := h.artifacts
  simp only [Request.asksFor, ha, List.any_eq_true, List.mem_filterMap, Token.artifact?_eq_some_iff,
    decide_eq_true_eq, Names]
  constructor
  case mp =>
    rintro ⟨a, ⟨token, ht, rfl⟩, rfl⟩
    exact ⟨a.path, ht⟩
  case mpr =>
    rintro ⟨path, ht⟩
    exact ⟨⟨kind, path⟩, ⟨_, ht, rfl⟩, rfl⟩

theorem addition_eq {s : Settings} {kind : ArtifactKind} :
    i.request.addition s kind = if Names ts (.ofKind kind) then [] else (s.artifact? kind).toList := by
  simp only [Request.addition, h.asksFor_iff]

theorem loads : Loads tree ts (i.settingsFrom tree) where
  named path hp := by
    rw [Invocation.settingsFrom, h.settings_eq_some_iff.mpr hp, Settings.load_shown]
    rfl
  unnamed hn := by
    have hs : i.settings = none :=
      Option.eq_none_iff_forall_ne_some.mpr fun path hp => hn ⟨path, h.settings_eq_some_iff.mp hp⟩
    rw [Invocation.settingsFrom, hs]
    rfl

theorem asks : Asks ts (i.settingsFrom tree) (i.options tree) where
  definitions := h.definitions
  artifacts := by
    rw [Invocation.options, Request.complete, h.addition_eq, h.addition_eq]
    simp only [Settings.artifact?, Option.toList_map]
    exact congrArg (· ++ _ ++ _) h.artifacts
  givenConfig path hp := by
    have hc : i.request.config = some path := h.config_eq_some_iff.mpr hp
    rw [Invocation.options, Request.complete, hc]
    rfl
  otherConfig hn := by
    have hc : i.request.config = none :=
      Option.eq_none_iff_forall_ne_some.mpr fun path hp => hn ⟨path, h.config_eq_some_iff.mp hp⟩
    rw [Invocation.options, Request.complete, hc]
    rfl
  suppressed hs := by
    have hs : i.request.suppressUndefined = some true := if_pos (h.mem_switches_iff.mpr hs)
    rw [Invocation.options, Request.complete, hs]
    rfl
  unsuppressed hs := by
    have hs : i.request.suppressUndefined = none := if_neg (mt h.mem_switches_iff.mp hs)
    rw [Invocation.options, Request.complete, hs]
    rfl

end Invocation.Gathers

-- What is asked for on the command line keeps its order, and every output of it is there once. An argument
-- list can be understood in one way only. What it says, and after that what its settings say, is what the
-- run is given. It makes no difference whether outputs are taken as they come or put in order afterwards.
theorem execute_asks {env : Environment} (h : Invocation.ofArguments arguments = .ok i)
    (tree : FileTree) :
    ∃ ts, Spells arguments ts ∧ (∀ us, Spells arguments us → us = ts) ∧
      Loads tree ts (i.settingsFrom tree) ∧ Asks ts (i.settingsFrom tree) (i.options tree) ∧
      (∀ place, StrictMono place →
        inOrder (outputs .header place ts) (outputs .makefile place ts) =
          ts.filterMap Token.artifact?) ∧
      (.switch .version ∉ ts → .switch .init ∉ ts →
        let s := (execute env arguments : StateM FileTree _) tree
        let r := (run (i.options tree) : StateM FileTree _) tree
        s.1.exitCode = (if r.1.value.toBool then 0 else 1) ∧ s.2 = r.2) := by
  have hg : i.Gathers (tokens arguments) := Invocation.gathers_of_ofTokens h
  refine ⟨tokens arguments, spells_tokens (Invocation.isPart_of_foldlM_add h), fun us hu => ?_,
    hg.loads, hg.asks, fun _ => inOrder_outputs, fun hv hi => ?_⟩
  · exact (tokens_of_spells hu).left.symm
  · rw [execute_of_generate h (mt hg.mem_switches_iff.mp hv) (mt hg.mem_switches_iff.mp hi)]
    exact generate_tree

end

-- A makefile, a header and another makefile, so that those of the settings are left out. Behind the two
-- hyphens there is no output.
def mixedArguments : List String :=
  ["-sMfirst.mk", "net.def", "-C", "config.h", "--settings=cfg/board.toml", "-M=last.mk", "--", "-C"]

def mixedInvocation : Invocation where
  definitions := ["net.def", "-C"]
  artifacts   := [⟨.makefile, "first.mk"⟩, ⟨.header, "config.h"⟩, ⟨.makefile, "last.mk"⟩]
  settings    := some "cfg/board.toml"
  switches    := [.suppress]

def mixedTokens : List Token :=
  [.switch .suppress, .value .makefile "first.mk", .definition "net.def", .value .header "config.h",
   .value .settings "cfg/board.toml", .value .makefile "last.mk", .definition "-C"]

def mixedTree : FileTree where
  workingDirectory := []
  bindings := [
    (["cfg"], .directory),
    (["cfg", "board.toml"], .file
      "[input]\nconfig = 'board.conf'\n[output]\nheader = 'board.h'\nmakefile = 'board.mk'".toUTF8)]

theorem execute_asks_mixedArguments :
    Spells mixedArguments mixedTokens ∧
      (mixedInvocation.options mixedTree).definitions = ["net.def", "-C"] ∧
      (mixedInvocation.options mixedTree).artifacts = mixedInvocation.artifacts ∧
      (mixedInvocation.options mixedTree).config = "cfg/board.conf" ∧
      (mixedInvocation.options mixedTree).suppressUndefined = true ∧
      inOrder ⟨[7], ["config.h"]⟩ ⟨[3, 11], ["first.mk", "last.mk"]⟩ = mixedInvocation.artifacts := by
  have hi : Invocation.ofArguments mixedArguments = .ok mixedInvocation := by decide +kernel
  have ht : tokens mixedArguments = mixedTokens := by decide +kernel
  have hl : mixedInvocation.settingsFrom mixedTree =
      { config   := some "cfg/board.conf"
        header   := some "cfg/board.h"
        makefile := some "cfg/board.mk" } := by
    decide +kernel
  obtain ⟨ts, hs, _, _, ha, ho, _⟩ := @execute_asks mixedInvocation _ {} hi mixedTree
  obtain rfl : mixedTokens = ts := ht.symm.trans (tokens_of_spells hs).left
  have hp : StrictMono fun n : Nat => 2 * n + 1 := fun a b h => by
    dsimp only
    omega
  refine ⟨hs, ha.definitions, ha.artifacts, ?_, ha.suppressed (by decide), ho _ hp⟩
  rw [ha.otherConfig (by decide), hl]
  rfl

end CommandLine
end BuildConfig
