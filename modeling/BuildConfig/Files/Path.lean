namespace BuildConfig
namespace Path

def isAbsolute (path : String) : Bool :=
  path.toList.head? = some '/'

-- The names between the slashes of a path, empty ones included.
def segments (path : String) : List String :=
  (path.toList.splitOn '/').map String.ofList

-- A segment that stays in the directory it is read from.
def isIdle (segment : List Char) : Bool :=
  segment = [] ∨ segment = ['.']

-- The root or the leading `.` of a path, and what follows it.
def splitStart : List Char → List Char × List Char
  | '/' :: body        => (['/'], body)
  | ['.']              => (['.'], [])
  | '.' :: '/' :: body => (['.'], '/' :: body)
  | body               => ([], body)

-- The path without its last name. Idle segments before and after that name go with it, and the
-- root has no parent.
def parent? (path : String) : Option String :=
  let (start, body) := splitStart path.toList
  match (body.splitOn '/').reverse.dropWhile isIdle with
  | []          => if start = ['.'] then some "" else none
  | _ :: before => some (String.ofList (start ++ ['/'].intercalate (before.dropWhile isIdle).reverse))

-- The path that leads where `path` leads from the directory `base`.
def join (base path : String) : String :=
  if isAbsolute path ∨ base = "" then path
  else if base.toList.getLast? = some '/' then base ++ path
  else base ++ "/" ++ path

theorem join_absolute {base path : String} (h : isAbsolute path) : join base path = path := by
  simp [join, h]

theorem join_empty {path : String} : join "" path = path := by
  simp [join]

end Path
end BuildConfig
