import BuildConfig.Proofs.Files.Directory
import BuildConfig.Settings.Load

namespace BuildConfig
namespace Settings

-- The settings that are paths.
inductive PathSetting
  | config
  | header
  | makefile

def PathSetting.of : PathSetting → Settings → Option String
  | config, s   => s.config
  | header, s   => s.header
  | makefile, s => s.makefile

variable {tree : FileTree} {s written : Settings} {path base content : String}

-- Every path is joined to the parent of the file, and no other setting changes.
theorem of_rebase {setting : PathSetting} (h : Path.parent? path = some base) :
    setting.of (written.rebase path) = (setting.of written).map (Path.join base) := by
  rw [rebase, h]
  cases setting <;> rfl

theorem ofContent_eq_ok_iff :
    ofContent path content = .ok s ↔
      ∃ written, ofText content.toList = .ok written ∧ written.checkNames = .ok () ∧
        s = written.rebase path := by
  rw [ofContent, bind_eq_ok_iff]
  constructor
  case mp =>
    rintro ⟨written, ht, h⟩
    obtain ⟨_, hc, h⟩ := bind_eq_ok_iff.mp h
    cases h
    exact ⟨written, ht, hc, rfl⟩
  case mpr =>
    rintro ⟨written, ht, hc, rfl⟩
    exact ⟨written, ht, bind_eq_ok_iff.mpr ⟨(), hc, rfl⟩⟩

theorem readText_of_load (h : ((load path : StateM FileTree _) tree).1 = .ok s) :
    ∃ content, tree.readText path = .ok content ∧ ofContent path content = .ok s := by
  rw [load_shown] at h
  obtain ⟨content, hr, hc⟩ := bind_eq_ok_iff.mp h
  exact ⟨content, mapError_eq_ok_iff.mp hr, hc⟩

-- A relative path in a settings file is meant from the directory with that file. The path that is loaded
-- leads from the working directory where the written one leads from there. As in every file system, the
-- working directory stands in directories.
theorem load_rebases (hu : tree.Under tree.workingDirectory)
    (h : ((load path : StateM FileTree _) tree).1 = .ok s) :
    ∃ content written directory name,
      tree.readText path = .ok content ∧ ofText content.toList = .ok written ∧
        tree.resolve path = .ok (directory ++ [name]) ∧
        ∀ setting : PathSetting,
          (setting.of written = none → setting.of s = none) ∧
            ∀ other, setting.of written = some other →
              ∃ loaded, setting.of s = some loaded ∧
                (Path.isAbsolute other → loaded = other) ∧
                (¬Path.isAbsolute other → other ≠ "" → tree.LeadsAlike loaded directory other) := by
  obtain ⟨content, hr, hc⟩ := readText_of_load h
  obtain ⟨written, ht, _, rfl⟩ := ofContent_eq_ok_iff.mp hc
  obtain ⟨l, _, hl, hn, _⟩ := FileTree.readText_eq_ok_iff.mp hr
  have hd : tree.node? l ≠ some .directory := by
    rw [hn]
    nofun
  have hne : l ≠ [] := by
    rintro rfl
    exact hd FileTree.node?_root
  obtain ⟨base, hb, hp⟩ := FileTree.exists_isParent hl hd
  have hs := List.dropLast_concat_getLast hne
  refine ⟨content, written, l.dropLast, l.getLast hne, hr, ht, hs.symm ▸ hl, fun setting => ⟨?_, ?_⟩⟩
  · intro hw
    rw [of_rebase hb, hw]
    rfl
  · intro other hw
    refine ⟨Path.join base other, ?_, Path.join_absolute, ?_⟩
    · rw [of_rebase hb, hw]
      rfl
    · exact fun ho hn => FileTree.leadsAlike_join hl hd hp hu ho hn

-- A settings file that is found by a long way round. Next to its directory is what it names.
def boardText : String :=
  "[input]\nconfig = '../site.conf'\n[output]\nheader = '/tmp/board.h'"

def boardTree : FileTree where
  workingDirectory := ["home"]
  bindings := [
    (["home"], .directory),
    (["home", "cfg"], .directory),
    (["home", "site.conf"], .file "PORT = 8080".toUTF8),
    (["home", "cfg", "board.toml"], .file boardText.toUTF8)]

theorem load_rebases_boardTree :
    ((load "cfg/..//./cfg/./board.toml" : StateM FileTree _) boardTree).1 =
        .ok { config := some "cfg/..//./cfg/../site.conf", header := some "/tmp/board.h" } ∧
      boardTree.LeadsAlike "cfg/..//./cfg/../site.conf" ["home", "cfg"] "../site.conf" ∧
      boardTree.resolve "cfg/..//./cfg/../site.conf" = .ok ["home", "site.conf"] := by
  have hu : boardTree.Under boardTree.workingDirectory := by
    intro n hn
    obtain rfl : n = 0 := Nat.lt_one_iff.mp hn
    rfl
  have hl : ((load "cfg/..//./cfg/./board.toml" : StateM FileTree _) boardTree).1 =
      .ok { config := some "cfg/..//./cfg/../site.conf", header := some "/tmp/board.h" } := by
    decide +kernel
  have hc : boardTree.readText "cfg/..//./cfg/./board.toml" = .ok boardText := by decide +kernel
  have hw : ofText boardText.toList =
      .ok { config := some "../site.conf", header := some "/tmp/board.h" } := by
    decide +kernel
  have hd : boardTree.resolve "cfg/..//./cfg/./board.toml" = .ok ["home", "cfg", "board.toml"] := by
    decide +kernel
  obtain ⟨content, written, directory, name, hr, ht, hp, hs⟩ := load_rebases hu hl
  cases hc.symm.trans hr
  cases hw.symm.trans ht
  have hp : ["home", "cfg"] ++ ["board.toml"] = directory ++ [name] :=
    Except.ok.inj (hd.symm.trans hp)
  obtain ⟨rfl, _⟩ := List.append_inj' hp rfl
  obtain ⟨loaded, hf, _, ha⟩ := (hs .config).right "../site.conf" rfl
  cases hf
  have ha := ha (by decide +kernel) (by decide +kernel)
  refine ⟨hl, ha, ?_⟩
  rw [ha.resolved (by decide +kernel)]
  decide +kernel

end Settings
end BuildConfig
