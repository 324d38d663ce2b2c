import BuildConfig.CommandLine.Execution

namespace BuildConfig

def FileError.ofNumber (number : UInt32) (description : String) : FileError :=
  match number with
  | 2  => .notFound
  | 20 => .notADirectory
  | 21 => .isADirectory
  | 28 => .noSpaceLeft
  | 36 => .nameTooLong
  | _  => .other (description ++ " (os error " ++ toString number ++ ")")

def FileError.ofSystem : IO.Error → FileError
  | .noFileOrDirectory _ number description => ofNumber number description
  | .invalidArgument _ number description   => ofNumber number description
  | .permissionDenied _ number description  => ofNumber number description
  | .resourceExhausted _ number description => ofNumber number description
  | .inappropriateType _ number description => ofNumber number description
  | .noSuchThing _ number description       => ofNumber number description
  | .resourceBusy number description        => ofNumber number description
  | .otherError number description          => ofNumber number description
  | e                                       => .other (toString e)

def fill (file : IO.FS.Handle) (text : String) : IO (Except WriteError Unit) :=
  try
    file.putStr text
    file.flush
    return .ok ()
  catch e => return .error (.atWriting (.ofSystem e))

-- The files of the system.
instance : FileAccess IO where
  readText path := do
    if '\x00' ∈ path.toList then
      return .error .zeroInPath
    try
      match String.fromUTF8? (← (← IO.FS.Handle.mk path .read).readBinToEnd) with
      | some text => return .ok text
      | none      => return .error .notText
    catch e => return .error (.ofSystem e)
  writeText path text := do
    if '\x00' ∈ path.toList then
      return .error (.atOpening .zeroInPath)
    try
      fill (← IO.FS.Handle.mk path .write) text
    catch e => return .error (.atOpening (.ofSystem e))
  existsAt path := do
    try
      discard (IO.FS.realPath path)
      return true
    catch _ => return false

end BuildConfig

open BuildConfig in
def main (arguments : List String) : IO UInt32 := do
  let env := {
    refusesColor := (← IO.getEnv "NO_COLOR").isSome
    onTerminal := ← (← IO.getStderr).isTty }
  let outcome ← CommandLine.execute env arguments
  IO.print outcome.output
  IO.eprint outcome.errorOutput
  return outcome.exitCode
