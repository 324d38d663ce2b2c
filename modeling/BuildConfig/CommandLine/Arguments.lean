import BuildConfig.Options

namespace BuildConfig
namespace CommandLine

-- The options that are followed by a value.
inductive ValueOption
  | header
  | makefile
  | config
  | settings
  deriving DecidableEq

inductive Switch
  | suppress
  | version
  | init
  | color
  | noColor
  deriving DecidableEq

-- What an argument list is refused for.
inductive UsageError
  | unknownOption (name : String)
  | valueMissing (option : ValueOption)
  | valueUnexpected (name : String)
  | emptyPath
  | repeatedOption (option : ValueOption)
  | repeatedSwitch (switch : Switch)
  deriving DecidableEq

-- What the argument list says from left to right. A text with a fault in it is as good as one that
-- ends there.
inductive Token
  | definition (path : String)
  | value (option : ValueOption) (text : String)
  | switch (switch : Switch)
  | help
  | fault (error : UsageError)
  deriving DecidableEq

-- What the name of an option stands for.
inductive OptionName
  | value (option : ValueOption)
  | switch (switch : Switch)
  | help
  deriving DecidableEq

namespace OptionName

def ofChar? : Char → Option OptionName
  | 'C' => some (value .header)
  | 'M' => some (value .makefile)
  | 'c' => some (value .config)
  | 's' => some (switch .suppress)
  | 'v' => some (switch .version)
  | 'h' => some help
  | _   => none

def ofWord? (word : String) : Option OptionName :=
  [("settings", value .settings), ("version", switch .version), ("init", switch .init),
   ("color", switch .color), ("no-color", switch .noColor), ("help", help)].lookup word

end OptionName

-- The tokens of one argument, and the option that waits for the next argument as its value.
structure Piece where
  tokens : List Token
  waiting : Option ValueOption := none
  deriving DecidableEq

namespace Piece

-- A word after two hyphens, with or without a value behind an equals sign.
def ofWord (cs : List Char) : Piece :=
  let word := String.ofList (cs.takeWhile (· ≠ '='))
  match OptionName.ofWord? word, cs.dropWhile (· ≠ '=') with
  | none, _                => ⟨[.fault (.unknownOption word)], none⟩
  | some (.value o), []    => ⟨[], some o⟩
  | some (.value o), _ :: text => ⟨[.value o (String.ofList text)], none⟩
  | some (.switch s), []   => ⟨[.switch s], none⟩
  | some .help, []         => ⟨[.help], none⟩
  | some _, _ :: _         => ⟨[.fault (.valueUnexpected word)], none⟩

-- Letters after one hyphen. The first one that takes a value takes the rest of the argument for
-- it, less an equals sign in front.
def ofLetters : List Char → Piece
  | []      => ⟨[], none⟩
  | c :: cs =>
    match OptionName.ofChar? c with
    | none             => ⟨[.fault (.unknownOption (String.ofList [c]))], none⟩
    | some .help       => ⟨[.help], none⟩
    | some (.switch s) =>
      let rest := ofLetters cs
      ⟨.switch s :: rest.tokens, rest.waiting⟩
    | some (.value o)  =>
      match cs with
      | []         => ⟨[], some o⟩
      | '=' :: cs  => ⟨[.value o (String.ofList cs)], none⟩
      | cs         => ⟨[.value o (String.ofList cs)], none⟩

-- A lone hyphen is a path like any other.
def ofArgument (argument : String) : Piece :=
  match argument.toList with
  | '-' :: '-' :: cs => ofWord cs
  | '-' :: c :: cs   => ofLetters (c :: cs)
  | _                => ⟨[.definition argument], none⟩

end Piece

-- Only a lone hyphen among the arguments that start with one can be a value.
def isValue (argument : String) : Bool :=
  argument = "-" ∨ argument.toList.head? ≠ some '-'

-- Two hyphens alone end the options: everything after them is a path.
def tokens : List String → List Token
  | []               => []
  | argument :: rest =>
    if argument = "--" then rest.map .definition
    else
      let piece := Piece.ofArgument argument
      match piece.waiting, rest with
      | none, rest                   => piece.tokens ++ tokens rest
      | some option, []              => piece.tokens ++ [.fault (.valueMissing option)]
      | some option, value :: rest   =>
        if isValue value then piece.tokens ++ .value option value :: tokens rest
        else piece.tokens ++ [.fault (.valueMissing option)]

-- The command that an argument list spells out.
structure Invocation where
  definitions : List String := []
  artifacts : List Artifact := []
  config : Option String := none
  settings : Option String := none
  switches : List Switch := []
  deriving DecidableEq

-- Why an argument list spells out no command.
inductive Refusal
  | help
  | usage (error : UsageError)
  deriving DecidableEq

namespace Invocation

def withValue (i : Invocation) (text : String) : ValueOption → Except UsageError Invocation
  | .header   => .ok { i with artifacts := i.artifacts ++ [⟨.header, text⟩] }
  | .makefile => .ok { i with artifacts := i.artifacts ++ [⟨.makefile, text⟩] }
  | .config   =>
    if i.config.isSome then .error (.repeatedOption .config) else .ok { i with config := some text }
  | .settings =>
    if i.settings.isSome then .error (.repeatedOption .settings) else .ok { i with settings := some text }

def add (i : Invocation) : Token → Except Refusal Invocation
  | .definition path   =>
    if path = "" then .error (.usage .emptyPath)
    else .ok { i with definitions := i.definitions ++ [path] }
  | .value option text =>
    if text = "" then .error (.usage .emptyPath)
    else (i.withValue text option).mapError .usage
  | .switch switch     =>
    if switch ∈ i.switches then .error (.usage (.repeatedSwitch switch))
    else .ok { i with switches := i.switches ++ [switch] }
  | .help              => .error .help
  | .fault error       => .error (.usage error)

-- Reads from left to right and stops at the first thing that is no part of a command.
def ofTokens (tokens : List Token) : Except Refusal Invocation :=
  tokens.foldlM add {}

def ofArguments (arguments : List String) : Except Refusal Invocation :=
  ofTokens (tokens arguments)

-- Leaving a switch out says nothing.
def request (i : Invocation) : Request where
  definitions       := i.definitions
  config            := i.config
  artifacts         := i.artifacts
  suppressUndefined := if .suppress ∈ i.switches then some true else none

end Invocation
end CommandLine
end BuildConfig
