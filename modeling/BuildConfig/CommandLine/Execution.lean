import BuildConfig.CommandLine.Arguments
import BuildConfig.Palette
import BuildConfig.Run
import BuildConfig.Settings.Load
import BuildConfig.Settings.Template

namespace BuildConfig
namespace CommandLine

def programName : String :=
  "defcon"

def versionText : String :=
  Text.unlines [programName ++ " (DefCon) 0.1.0", "Copyright (c) 2021, Kirill GPRB."]

def helpText : String :=
  Text.unlines
    ["Generate C headers and makefile fragments from typed configuration definitions",
     "",
     "Usage: defcon [OPTIONS] [DEFINITIONS]...",
     "",
     "Options:",
     "  -C <FILENAME>          Generate a C header",
     "  -M <FILENAME>          Generate a makefile fragment",
     "  -c <FILENAME>          Set the input file (default: defcon.conf)",
     "  -s                     Suppress \"undefined key\" warnings during parsing",
     "  -v, --version          Print version and exit",
     "      --settings <PATH>  Read default options from this defcon.toml",
     "      --init             Generate a template defcon.toml settings file",
     "      --color            Always color diagnostics",
     "      --no-color         Never color diagnostics",
     "  -h, --help             Print help"]

def ValueOption.spelling : ValueOption → String
  | .header   => "-C"
  | .makefile => "-M"
  | .config   => "-c"
  | .settings => "--settings"

def Switch.spelling : Switch → String
  | .suppress => "-s"
  | .version  => "--version"
  | .init     => "--init"
  | .color    => "--color"
  | .noColor  => "--no-color"

def UsageError.message : UsageError → String
  | .unknownOption name   => "unknown option: " ++ name
  | .valueMissing o       => "a value is required for " ++ o.spelling
  | .valueUnexpected name => "no value can be given for --" ++ name
  | .emptyPath            => "a path cannot be empty"
  | .repeatedOption o     => o.spelling ++ " cannot be used more than once"
  | .repeatedSwitch s     => s.spelling ++ " cannot be used more than once"

-- What is told beside the output proper.
inductive Notice
  | warning (w : Warning)
  | fatal (message : String)
  | usage (error : UsageError)
  deriving DecidableEq

def Notice.line (palette : Palette) : Notice → String
  | .warning w     => w.source ++ ": " ++ palette.warning ++ "warning:" ++ palette.reset ++ " " ++ w.message
  | .fatal message => programName ++ ": " ++ palette.fatal ++ "fatal:" ++ palette.reset ++ " " ++ message
  | .usage error   => programName ++ ": " ++ error.message

-- How a command ends.
structure Outcome where
  exitCode : UInt32 := 0
  output : String := ""
  notices : List Notice := []
  palette : Palette := .plain
  deriving DecidableEq

def Outcome.errorOutput (o : Outcome) : String :=
  Text.unlines (o.notices.map (·.line o.palette))

namespace Invocation

def palette (env : Environment) (i : Invocation) : Palette :=
  .ofColored (env.usesColor (.color ∈ i.switches) (.noColor ∈ i.switches))

end Invocation

variable {m : Type → Type} [Monad m] [FileAccess m]

def createSettings (palette : Palette) : m Outcome := do
  match ← Settings.writeTemplate none with
  | .ok path =>
    let line := palette.success ++ "Created" ++ palette.reset ++ " " ++ path
    return { output := Text.unlines [line], palette }
  | .error e =>
    return { exitCode := 1, notices := [.fatal e.message], palette }

-- Settings that cannot be used count for nothing.
def loadSettings : Option String → m (Reported Settings)
  | none      => return ⟨{}, []⟩
  | some path => do
    match ← Settings.load path with
    | .ok settings => return ⟨settings, []⟩
    | .error e     => return ⟨{}, [.unusableSettings path e]⟩

def generate (palette : Palette) (i : Invocation) : m Outcome := do
  let settings ← loadSettings i.settings
  let result ← run (i.request.complete settings.value)
  let warnings := (settings.warnings ++ result.warnings).map .warning
  match result.value with
  | .ok _    => return { notices := warnings, palette }
  | .error e => return { exitCode := 1, notices := warnings ++ [.fatal e.message], palette }

def Invocation.execute (palette : Palette) (i : Invocation) : m Outcome :=
  if .version ∈ i.switches then return { output := versionText }
  else if .init ∈ i.switches then createSettings palette
  else generate palette i

-- What the command line does with its arguments.
def execute (env : Environment) (arguments : List String) : m Outcome :=
  match Invocation.ofArguments arguments with
  | .error .help      => return { output := helpText }
  | .error (.usage e) => return { exitCode := 1, notices := [.usage e] }
  | .ok i             => i.execute (i.palette env)

end CommandLine
end BuildConfig
