import BuildConfig.Files.Access
import BuildConfig.Registry.Basic
import BuildConfig.Text.Blank
import BuildConfig.Warning

namespace BuildConfig

-- The kinds of file that can be generated from a registry.
inductive ArtifactKind
  | header
  | makefile
  deriving DecidableEq

structure Artifact where
  kind : ArtifactKind
  path : String
  deriving DecidableEq

-- What the names in artifacts are made of.
structure Naming where
  namePrefix : String := "CONFIG_"
  guard : String := "__CONFIG_H__"
  deriving DecidableEq

namespace Registry

-- The definitions that appear in artifacts. The others are reported.
def emitted (r : Registry) : Reported (List Definition) where
  value    := r.definitions.filter (·.define ≠ "")
  warnings := (r.definitions.filter (·.define = "")).map (.noDefine ·.name)

end Registry

namespace ArtifactKind

-- The line that gives the value of a definition.
def binding (naming : Naming) (d : Definition) : ArtifactKind → String
  | header   => "#define " ++ naming.namePrefix ++ d.define ++ " " ++ d.value.render
  | makefile => naming.namePrefix ++ d.define ++ " := " ++ d.value.render

-- The lines around the bindings.
def enclose (naming : Naming) (bindings : List String) : ArtifactKind → List String
  | header   => ["#ifndef " ++ naming.guard, "#define " ++ naming.guard ++ " 1"] ++ bindings ++ ["#endif"]
  | makefile => bindings

def lines (naming : Naming) (definitions : List Definition) (kind : ArtifactKind) : List String :=
  kind.enclose naming (definitions.map (kind.binding naming ·))

-- The text of the artifact of that kind.
def render (naming : Naming) (r : Registry) (kind : ArtifactKind) : Reported String :=
  return Text.unlines (kind.lines naming (← r.emitted))

end ArtifactKind

-- Writes an artifact and tells whether that went well. Where the file cannot even be opened, the
-- definitions that do not appear are not reported.
def Artifact.generate {m : Type → Type} [Monad m] [FileAccess m] (naming : Naming) (r : Registry)
    (a : Artifact) : m (Reported Bool) := do
  let rendered := a.kind.render naming r
  match ← writeText a.path rendered.value with
  | .ok _                    => return ⟨true, rendered.warnings⟩
  | .error (.atOpening e)    => return ⟨false, [.unwritten a.path (.atOpening e)]⟩
  | .error (.atWriting e)    => return ⟨false, rendered.warnings ++ [.unwritten a.path (.atWriting e)]⟩

end BuildConfig
