namespace BuildConfig

-- Why a file could not be read or written.
inductive FileError
  | notFound
  | notADirectory
  | isADirectory
  | noSpaceLeft
  | nameTooLong
  | notText
  | zeroInPath
  | other (description : String)
  deriving DecidableEq

namespace FileError

def message : FileError → String
  | notFound          => "No such file or directory (os error 2)"
  | notADirectory     => "Not a directory (os error 20)"
  | isADirectory      => "Is a directory (os error 21)"
  | noSpaceLeft       => "No space left on device (os error 28)"
  | nameTooLong       => "File name too long (os error 36)"
  | notText           => "stream did not contain valid UTF-8"
  | zeroInPath        => "file name contained an unexpected NUL byte"
  | other description => description

end FileError

-- Writing first opens the file, which empties it, and then fills it.
inductive WriteError
  | atOpening (cause : FileError)
  | atWriting (cause : FileError)
  deriving DecidableEq

def WriteError.cause : WriteError → FileError
  | atOpening cause => cause
  | atWriting cause => cause

end BuildConfig
