import BuildConfig.Document.Reader
import BuildConfig.Registry.Basic
import BuildConfig.Warning

namespace BuildConfig

-- How many entries of a configuration document came to which end.
structure Resolution where
  resolved : Nat := 0
  undefinedKeys : Nat := 0
  rejected : Nat := 0
  deriving DecidableEq

namespace Registry

structure Resolving where
  registry : Registry
  counts : Resolution := {}

namespace Resolving

def missed (s : Resolving) : Resolving :=
  { s with counts.undefinedKeys := s.counts.undefinedKeys + 1 }

def refused (s : Resolving) : Resolving :=
  { s with counts.rejected := s.counts.rejected + 1 }

def stored (s : Resolving) (d : Definition) : Resolving where
  registry := s.registry.update d.name fun _ => d
  counts   := { s.counts with resolved := s.counts.resolved + 1 }

end Resolving

-- Assigns the value of one entry to the key that it names, under whatever heading it stands.
def resolveEntry (source : String) (suppressUndefined : Bool) (s : Resolving) (e : Entry) :
    Reported Resolving :=
  match s.registry.find? e.key with
  | none => do
    .warnIf (suppressUndefined = false) (.undefinedKey source e.key)
    return s.missed
  | some d =>
    match d.assign e.value with
    | .ok assigned  => pure (s.stored assigned)
    | .error misfit => do
      .warn (.rejectedValue source e.key misfit)
      return s.refused

def resolveDocument (source : String) (suppressUndefined : Bool) (r : Registry)
    (document : Document) : Reported (Registry × Resolution) := do
  let s ← document.foldlM (resolveEntry source suppressUndefined) { registry := r }
  return (s.registry, s.counts)

end Registry
end BuildConfig
