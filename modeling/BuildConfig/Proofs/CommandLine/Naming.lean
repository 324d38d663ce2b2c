import BuildConfig.Proofs.Artifact.Lines
import BuildConfig.Proofs.CommandLine.Exit
import BuildConfig.Proofs.Settings.Identifier

namespace BuildConfig

section
variable {o : Options} {naming : Naming} {r : Registry} {tree : FileTree} {a : Artifact}

-- A header is its bindings between the lines of the include guard.
theorem Artifact.text_of_header (h : a.kind = .header) :
    a.text naming r =
      "#ifndef " ++ naming.guard ++ "\n" ++ "#define " ++ naming.guard ++ " 1\n" ++
        Text.unlines (r.shown.map fun d =>
          "#define " ++ naming.namePrefix ++ d.define ++ " " ++ d.value.render) ++
        "#endif\n" := by
  rw [text, h, ArtifactKind.value_render, ArtifactKind.lines, ArtifactKind.enclose,
    Text.unlines_append, Text.unlines_append, Text.unlines_cons, Text.unlines_cons]
  apply String.toList_injective
  simp [Text.unlines, ArtifactKind.binding]

-- Where a run changes anything, it leaves the text of an artifact.
theorem exists_artifact_of_run :
    ∃ r, ∀ l, ((run o : StateM FileTree _) tree).2.node? l ≠ tree.node? l →
      ∃ a ∈ o.artifacts, tree.target a.path = .ok l ∧
        ((run o : StateM FileTree _) tree).2.node? l = some (.file (a.text o.naming r).toUTF8) := by
  cases hr : ((run o : StateM FileTree _) tree).1.value with
  | error e =>
    rw [state_of_run_error hr]
    exact ⟨{}, fun l hl => absurd rfl hl⟩
  | ok report =>
    have ⟨hd, r, _, hc⟩ := configured_of_run_ok hr
    rw [(run_tree_of_configured hd hc).right]
    refine ⟨r, fun l hl => ?_⟩
    have hf : tree.node? l ≠ some .fullDevice :=
      fun hf => hl (by rw [Artifact.node?_generated_of_fullDevice hf, hf])
    rw [Artifact.node?_generated hf] at hl ⊢
    cases ha : Artifact.last? tree o.artifacts l with
    | none   => exact absurd (by rw [ha]; rfl) hl
    | some a =>
      have ⟨hm, ht⟩ := Artifact.mem_of_last?_eq_some ha
      exact ⟨a, hm, ht, rfl⟩

end

namespace CommandLine

variable {tree : FileTree} {env : Environment} {arguments : List String} {i : Invocation}

-- Settings come from a file whose names have been checked, or from none.
theorem fits_naming_options : (i.options tree).naming.Fits := by
  change (i.settingsFrom tree).naming.Fits
  rw [Invocation.settingsFrom]
  cases i.settings with
  | none => exact .default
  | some path =>
    rw [Option.bind_some]
    cases hs : tree.settingsAt path with
    | error e => exact .default
    | ok s    =>
      obtain ⟨_, _, hs⟩ := bind_eq_ok_iff.mp hs
      exact Settings.fits_naming_of_ofContent hs

theorem exists_artifact_of_execute (h : Invocation.ofArguments arguments = .ok i)
    (hi : .init ∉ i.switches) :
    let o := i.options tree
    let s := (execute env arguments : StateM FileTree _) tree
    ∃ r, ∀ l, s.2.node? l ≠ tree.node? l →
      ∃ a ∈ o.artifacts, tree.target a.path = .ok l ∧
        s.2.node? l = some (.file (a.text o.naming r).toUTF8) := by
  by_cases hv : .version ∈ i.switches
  case pos =>
    obtain ⟨_, hs⟩ := execute_of_informs (m := StateM FileTree) (.version h hv)
    dsimp only
    rw [hs]
    exact ⟨{}, fun l hl => absurd rfl hl⟩
  case neg =>
    have ⟨_, hs⟩ := @generate_tree (i.palette env) i tree
    rw [execute_of_generate h hv hi]
    dsimp only
    rw [hs]
    exact exists_artifact_of_run

-- Whatever the settings file of a command says, the names that the command works with are identifiers.
-- So all of its headers stand inside an include guard, and nothing but the texts of its artifacts
-- is written.
theorem execute_guards_headers (h : Invocation.ofArguments arguments = .ok i) :
    let o := i.options tree
    let s := (execute env arguments : StateM FileTree _) tree
    o = i.request.complete ((loadSettings i.settings : StateM FileTree _) tree).1.value ∧
      o.naming.Fits ∧
      (∀ c ∈ o.naming.namePrefix.toList ++ o.naming.guard.toList, c ∈ Identifier.rests) ∧
      (∀ a ∈ o.artifacts, a.kind = .header → ∀ r,
        a.text o.naming r =
          "#ifndef " ++ o.naming.guard ++ "\n" ++ "#define " ++ o.naming.guard ++ " 1\n" ++
            Text.unlines (r.shown.map fun d =>
              "#define " ++ o.naming.namePrefix ++ d.define ++ " " ++ d.value.render) ++
            "#endif\n") ∧
      (.init ∉ i.switches →
        ∃ r, ∀ l, s.2.node? l ≠ tree.node? l →
          ∃ a ∈ o.artifacts, tree.target a.path = .ok l ∧
            s.2.node? l = some (.file (a.text o.naming r).toUTF8)) := by
  intro o s
  have hf : o.naming.Fits := fits_naming_options
  refine ⟨?settings, hf, ?characters, ?headers, exists_artifact_of_execute h⟩
  case settings =>
    have ⟨_, hl⟩ := @loadSettings_tree i tree
    rw [hl]
    rfl
  case characters =>
    rw [List.forall_mem_append]
    exact ⟨fun _ => hf.mem_rests_of_mem_namePrefix, fun _ => hf.mem_rests_of_mem_guard⟩
  case headers => exact fun a _ hk r => Artifact.text_of_header hk

-- A settings file with a good prefix and a guard that ends with a line feed. None of it is used.
def brandedTree : FileTree where
  workingDirectory := []
  bindings := [
    (["port.def"], .file "[PORT]\ntype = integer\ndefine = PORT".toUTF8),
    (["site.conf"], .file "PORT = 8080\nHOST = box".toUTF8),
    (["board.toml"], .file
      "[output]\nheader = 'board.h'\nprefix = 'BOARD_'\nguard = \"BOARD_H\\n\"".toUTF8)]

def brandedArguments : List String :=
  ["-Cconfig.h", "--settings", "board.toml", "-csite.conf", "port.def"]

def brandedInvocation : Invocation where
  definitions := ["port.def"]
  artifacts   := [⟨.header, "config.h"⟩]
  config      := some "site.conf"
  settings    := some "board.toml"

theorem execute_guards_headers_brandedTree :
    let s := (execute {} brandedArguments : StateM FileTree _) brandedTree
    (brandedInvocation.options brandedTree).naming.Fits ∧
      ∃ r, s.2.node? ["config.h"] =
        some (.file (Artifact.text (brandedInvocation.options brandedTree).naming r
          ⟨.header, "config.h"⟩).toUTF8) := by
  have hi : Invocation.ofArguments brandedArguments = .ok brandedInvocation := by decide +kernel
  have ⟨_, hf, _, _, hw⟩ := @execute_guards_headers brandedTree {} _ _ hi
  obtain ⟨r, hr⟩ := hw (by decide)
  have hs : (((execute {} brandedArguments : StateM FileTree _) brandedTree).2.node?
      ["config.h"]).isSome := by
    decide +kernel
  have hb : ¬(brandedTree.node? ["config.h"]).isSome := by decide +kernel
  obtain ⟨a, ha, _, hn⟩ := hr ["config.h"] fun he => hb (he ▸ hs)
  have ho : (brandedInvocation.options brandedTree).artifacts = [⟨.header, "config.h"⟩] := by
    decide +kernel
  rw [ho] at ha
  exact ⟨hf, r, List.mem_singleton.mp ha ▸ hn⟩

example :
    ((execute {} brandedArguments : StateM FileTree _) brandedTree).2.readText "config.h" =
      .ok "#ifndef __CONFIG_H__\n#define __CONFIG_H__ 1\n#define CONFIG_PORT 8080\n#endif\n" := by
  decide +kernel

end CommandLine
end BuildConfig
