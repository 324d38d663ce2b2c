import BuildConfig.Files.Error
import BuildConfig.Text.Quoted

namespace BuildConfig

-- What a settings file says. A setting that it leaves out is decided elsewhere.
structure Settings where
  config : Option String := none
  suppressUndefined : Option Bool := none
  header : Option String := none
  makefile : Option String := none
  namePrefix : Option String := none
  guard : Option String := none
  deriving DecidableEq

namespace Settings

-- The settings that have to be C identifiers.
inductive NameSetting
  | namePrefix
  | guard
  deriving DecidableEq

def NameSetting.field : NameSetting → String
  | namePrefix => "prefix"
  | guard      => "guard"

inductive Error
  | unreadable (cause : FileError)
  | malformed (problem : String)
  | notAnIdentifier (setting : NameSetting) (name : String)
  deriving DecidableEq

def Error.message : Error → String
  | unreadable cause  => "failed to read settings file: " ++ cause.message
  | malformed problem => "failed to parse settings file: " ++ problem
  | notAnIdentifier setting name =>
    "output." ++ setting.field ++ " is not a valid C identifier: " ++ Text.quote name

end Settings
end BuildConfig
