import BuildConfig.Artifact
import BuildConfig.Settings.Basic

namespace BuildConfig

-- All that a run has to know.
structure Options where
  definitions : List String := []
  config : String := "defcon.conf"
  artifacts : List Artifact := []
  suppressUndefined : Bool := false
  naming : Naming := {}
  deriving DecidableEq

-- What the command line asks for. A choice that it leaves open is up to the settings.
structure Request where
  definitions : List String := []
  config : Option String := none
  artifacts : List Artifact := []
  suppressUndefined : Option Bool := none
  deriving DecidableEq

namespace Settings

-- The artifact of a kind that the settings ask for.
def artifact? (s : Settings) : ArtifactKind → Option Artifact
  | .header   => s.header.map (⟨.header, ·⟩)
  | .makefile => s.makefile.map (⟨.makefile, ·⟩)

def naming (s : Settings) : Naming where
  namePrefix := s.namePrefix.getD ({} : Naming).namePrefix
  guard      := s.guard.getD ({} : Naming).guard

end Settings

namespace Request

def asksFor (r : Request) (kind : ArtifactKind) : Bool :=
  r.artifacts.any (·.kind = kind)

-- Artifacts of a kind that the request already has are not added by the settings.
def addition (r : Request) (s : Settings) (kind : ArtifactKind) : List Artifact :=
  if r.asksFor kind then [] else (s.artifact? kind).toList

-- The request goes before the settings and the settings go before the defaults.
def complete (r : Request) (s : Settings) : Options where
  definitions       := r.definitions
  config            := (r.config <|> s.config).getD ({} : Options).config
  artifacts         := r.artifacts ++ r.addition s .header ++ r.addition s .makefile
  suppressUndefined := (r.suppressUndefined <|> s.suppressUndefined).getD false
  naming            := s.naming

end Request
end BuildConfig
