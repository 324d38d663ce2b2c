import BuildConfig.Files.Access
import BuildConfig.Text.Blank

namespace BuildConfig
namespace Settings

def fileName : String :=
  "defcon.toml"

-- A settings file that explains every setting and makes none.
def templateLines : List String :=
  ["# defcon.toml - Project settings for defcon",
   "#",
   "# defcon reads definition files describing configuration keys, fills them",
   "# in from a configuration file and generates a C header and/or a makefile",
   "# fragment. It is only read when named with --settings; definition files",
   "# are always given on the command line. Every setting below can be",
   "# overridden there too. Relative paths are resolved against the directory",
   "# of this file.",
   "",
   "[input]",
   "# Configuration file with the actual values (-c).",
   "# Default: \"defcon.conf\"",
   "# config = \"defcon.conf\"",
   "",
   "# Do not warn about keys that have no definition (-s).",
   "# Default: false",
   "# suppress_undefined = false",
   "",
   "[output]",
   "# C header to generate (-C).",
   "# header = \"config.h\"",
   "",
   "# Makefile fragment to generate (-M).",
   "# makefile = \"config.mk\"",
   "",
   "# Prefix of every emitted name.",
   "# Default: \"CONFIG_\"",
   "# prefix = \"CONFIG_\"",
   "",
   "# Include guard of the C header.",
   "# Default: \"__CONFIG_H__\"",
   "# guard = \"__CONFIG_H__\""]

def template : String :=
  Text.unlines templateLines

inductive TemplateError
  | alreadyExists
  | unwritten (cause : FileError)
  deriving DecidableEq

def TemplateError.message : TemplateError → String
  | alreadyExists   => fileName ++ " already exists"
  | unwritten cause => cause.message

-- Where the template goes for a directory, or for the working directory.
def templatePath : Option String → String
  | none           => fileName
  | some directory => Path.join directory fileName

-- Writes the template unless something stands in its place, and tells where it went.
def writeTemplate {m : Type → Type} [Monad m] [FileAccess m] (directory : Option String) :
    m (Except TemplateError String) := do
  let path := templatePath directory
  if ← existsAt path then
    return .error .alreadyExists
  match ← writeText path template with
  | .ok _    => return .ok path
  | .error e => return .error (.unwritten e.cause)

end Settings
end BuildConfig
