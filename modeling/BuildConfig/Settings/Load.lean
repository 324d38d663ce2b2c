import BuildConfig.Files.Access
import BuildConfig.Settings.Basic
import BuildConfig.Toml.Document

namespace BuildConfig
namespace Settings

open Toml (Item Entries)

-- A place in a settings file, with what an item in that place does to the settings.
structure Slot where
  name : String
  fill : Item → Settings → Except String Settings

namespace Slot

def forText (name : String) (set : String → Settings → Settings) : Slot where
  name := name
  fill
    | .string text, s => .ok (set (String.ofList text) s)
    | _, _            => .error ("expected a string for " ++ name)

def forChoice (name : String) (set : Bool → Settings → Settings) : Slot where
  name := name
  fill
    | .boolean b, s => .ok (set b s)
    | _, _          => .error ("expected true or false for " ++ name)

end Slot

def inputSlots : List Slot :=
  [.forText "config" fun path s => { s with config := some path },
   .forChoice "suppress_undefined" fun b s => { s with suppressUndefined := some b }]

def outputSlots : List Slot :=
  [.forText "header" fun path s => { s with header := some path },
   .forText "makefile" fun path s => { s with makefile := some path },
   .forText "prefix" fun name s => { s with namePrefix := some name },
   .forText "guard" fun name s => { s with guard := some name }]

-- Fills slots by name. Every key has to name one of them.
def fillByName (slots : List Slot) (s : Settings) (entries : Entries) : Except String Settings :=
  entries.foldlM
    (fun s (key, item) =>
      match slots.find? (·.name = String.ofList key) with
      | some slot => slot.fill item s
      | none      => .error ("unknown key: " ++ String.ofList key))
    s

-- Fills all slots in their order. What goes beyond the last one is left alone.
def fillInOrder (slots : List Slot) (s : Settings) (items : List Item) : Except String Settings :=
  if items.length < slots.length then .error "too few items"
  else (slots.zip items).foldlM (fun s (slot, item) => slot.fill item s) s

def fillGroup (slots : List Slot) (s : Settings) : Item → Except String Settings
  | .table _ entries => fillByName slots s entries
  | .array items     => fillInOrder slots s items
  | _                => .error "expected a table"

def ofEntries (entries : Entries) : Except String Settings :=
  fillByName [⟨"input", fun item s => fillGroup inputSlots s item⟩,
    ⟨"output", fun item s => fillGroup outputSlots s item⟩] {} entries

def isIdentifierStart (c : Char) : Bool :=
  c.isAlpha ∨ c = '_'

def isIdentifierRest (c : Char) : Bool :=
  c.isAlphanum ∨ c = '_'

-- Whether a text is an identifier of C.
def isIdentifier (text : String) : Bool :=
  match text.toList with
  | []      => false
  | c :: cs => isIdentifierStart c && cs.all isIdentifierRest

def checkName (setting : NameSetting) (isValid : String → Bool) : Option String → Except Error Unit
  | none      => .ok ()
  | some name => if isValid name then .ok () else .error (.notAnIdentifier setting name)

-- Names may be emitted as they are declared, so the text in front of them can be empty.
def checkNames (s : Settings) : Except Error Unit := do
  checkName .namePrefix (fun name => name = "" || isIdentifier name) s.namePrefix
  checkName .guard isIdentifier s.guard

-- Makes the paths of a settings file relative to the directory of that file.
def rebase (s : Settings) (path : String) : Settings :=
  match Path.parent? path with
  | none           => s
  | some directory =>
    { s with
      config   := s.config.map (Path.join directory)
      header   := s.header.map (Path.join directory)
      makefile := s.makefile.map (Path.join directory) }

def ofText (text : List Char) : Except Error Settings :=
  match Toml.read text with
  | .error fault => .error (.malformed fault.message)
  | .ok entries  => (ofEntries entries).mapError .malformed

-- The settings that the file at a path holds.
def ofContent (path content : String) : Except Error Settings := do
  let s ← ofText content.toList
  s.checkNames
  return s.rebase path

def load {m : Type → Type} [Monad m] [FileAccess m] (path : String) : m (Except Error Settings) := do
  match ← readText path with
  | .error cause => return .error (.unreadable cause)
  | .ok content  => return ofContent path content

end Settings

-- What loading the settings file at a path comes to.
def FileTree.settingsAt (tree : FileTree) (path : String) : Except Settings.Error Settings :=
  (tree.readText path).mapError .unreadable >>= Settings.ofContent path

theorem Settings.load_shown {σ : Type} [FileAccess (StateM σ)] [ShowsTree σ] {path : String} {s : σ} :
    (load path : StateM σ _) s = ((shown s).settingsAt path, s) := by
  simp only [load, bind, StateT.bind, ShowsTree.readText_shown, FileTree.settingsAt]
  cases (shown s).readText path <;> rfl

end BuildConfig
