import BuildConfig.Files.Access

namespace BuildConfig

-- A file for which there is no more room than for so many bytes.
structure Shortage where
  room : Nat
  cause : FileError

-- What goes into the file of a text that is longer.
def Shortage.part (s : Shortage) (text : String) : ByteArray :=
  text.toUTF8.extract 0 s.room

-- A file tree on a medium that need not take everything. The medium can refuse to open a location, and
-- it can run short while a file is filled. Both may depend on all that the tree holds at the time.
structure Volume where
  tree : FileTree
  refusal? : FileTree → Location → Option FileError
  shortage? : FileTree → Location → Option Shortage

namespace Volume

-- The medium that takes everything.
def unlimited (tree : FileTree) : Volume where
  tree          := tree
  refusal? _ _  := none
  shortage? _ _ := none

def put (v : Volume) (l : Location) (content : ByteArray) : Volume :=
  { v with tree := v.tree.put l (.file content) }

-- The location that opens for writing to a path.
def opened (v : Volume) (path : String) : Except FileError Location := do
  let l ← v.tree.target path
  match v.refusal? v.tree l with
  | some cause => throw cause
  | none       => return l

-- What keeps a text from going into a file to its end.
def cut? (v : Volume) (l : Location) (text : String) : Option Shortage :=
  (v.shortage? v.tree l).filter (·.room < text.utf8ByteSize)

-- Fills a file that was opened, and thereby emptied. Of a text that does not go in to its end, the file
-- keeps the part that did.
def fill (v : Volume) (l : Location) (text : String) : Except WriteError Unit × Volume :=
  match v.tree.node? l with
  | some .fullDevice => (if text = "" then .ok () else .error (.atWriting .noSpaceLeft), v)
  | _                =>
    match v.cut? l text with
    | some shortage => (.error (.atWriting shortage.cause), v.put l (shortage.part text))
    | none          => (.ok (), v.put l text.toUTF8)

def writeText (v : Volume) (path text : String) : Except WriteError Unit × Volume :=
  match v.opened path with
  | .error cause => (.error (.atOpening cause), v)
  | .ok l        => v.fill l text

end Volume

instance : FileAccess (StateM Volume) where
  readText path       := return (← get).tree.readText path
  writeText path text := fun v => v.writeText path text
  existsAt path       := return (← get).tree.existsAt path

instance : ShowsTree Volume where
  shown          := Volume.tree
  readText_shown := rfl
  existsAt_shown := rfl

end BuildConfig
