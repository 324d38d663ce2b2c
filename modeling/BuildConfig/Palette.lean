namespace BuildConfig

-- The control sequences that color a part of a message and end the color again.
structure Palette where
  fatal : String := ""
  warning : String := ""
  success : String := ""
  reset : String := ""
  deriving DecidableEq

namespace Palette

def plain : Palette :=
  {}

def colored : Palette where
  fatal   := "\x1b[1;31m"
  warning := "\x1b[33m"
  success := "\x1b[32m"
  reset   := "\x1b[0m"

def ofColored (enabled : Bool) : Palette :=
  if enabled then colored else plain

end Palette

-- What the surroundings of a command say about colors.
structure Environment where
  refusesColor : Bool := false
  onTerminal : Bool := false
  deriving DecidableEq

-- A wish for colors goes before a wish for none, and both go before the surroundings.
def Environment.usesColor (env : Environment) (color noColor : Bool) : Bool :=
  color || (!noColor && !env.refusesColor && env.onTerminal)

end BuildConfig
