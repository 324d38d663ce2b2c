namespace BuildConfig
namespace Toml

-- How a table came to be, which decides what may still be added to it: by a header of its own,
-- as an outer part of some header, as an outer part of a dotted key, or between braces.
inductive Origin
  | header
  | outerHeader
  | dottedKey
  | braces
  deriving DecidableEq

-- What a key stands for. Numbers with a fraction and points in time are kept as they are written.
-- The tables of an array of tables are in the order of their headers.
inductive Item
  | string (text : List Char)
  | integer (n : Int)
  | float (numeral : List Char)
  | moment (written : List Char)
  | boolean (b : Bool)
  | array (items : List Item)
  | table (origin : Origin) (entries : List (List Char × Item))
  | tables (elements : List (List (List Char × Item)))

abbrev Key := List Char

-- The keys of a table in the order of their first mention.
abbrev Entries := List (Key × Item)

-- What keeps a text from being read.
inductive Fault
  | expected (what : String)
  | notAnEscape
  | notACharacter
  | outOfRange (numeral : List Char)
  | duplicateKey (key : Key)
  | notExtensible (key : Key)
  | tooDeep
  deriving DecidableEq

def Fault.message : Fault → String
  | expected what       => "expected " ++ what
  | notAnEscape         => "unknown escape sequence"
  | notACharacter       => "escape sequence of no character"
  | outOfRange numeral  => "out of range: " ++ String.ofList numeral
  | duplicateKey key    => "duplicate key: " ++ String.ofList key
  | notExtensible key   => "nothing can be added to key: " ++ String.ofList key
  | tooDeep             => "nested too deeply"

namespace Entries

-- Binds a key, in place if it is bound already.
def put (key : Key) (item : Item) : Entries → Entries
  | []      => [(key, item)]
  | e :: es => if e.1 = key then (key, item) :: es else e :: put key item es

-- Changes the table that a path of keys leads to. Missing tables on the way are made with the given
-- origin. Dotted keys do not lead into tables that are complete, and nothing leads between braces.
def descend (made : Origin) (change : Origin → Entries → Except Fault Entries) (origin : Origin)
    (entries : Entries) : List Key → Except Fault Entries
  | []          => change origin entries
  | key :: path =>
    match entries.lookup key with
    | none => do
      let inner ← descend made change made [] path
      return put key (.table made inner) entries
    | some (.table inner es) => do
      if inner = .braces ∨ (made = .dottedKey ∧ inner = .header) then
        throw (.notExtensible key)
      let es ← descend made change inner es path
      return put key (.table inner es) entries
    | some (.tables elements) => do
      let es ← descend made change .header (elements.getLast?.getD []) path
      return put key (.tables (elements.dropLast ++ [es])) entries
    | some _ => throw (.notExtensible key)

-- Binds a dotted key to an item. Every table on the way has to come from dotted keys.
def bind (path : List Key) (key : Key) (item : Item) (origin : Origin) (entries : Entries) :
    Except Fault Entries :=
  descend .dottedKey place origin entries path
where
  place (origin : Origin) (entries : Entries) : Except Fault Entries := do
    if origin ≠ .dottedKey ∧ path ≠ [] then throw (.duplicateKey key)
    if (entries.lookup key).isSome then throw (.duplicateKey key)
    return put key item entries

-- Opens the table that a header names. An outer part of earlier headers can still get its own.
def openTable (path : List Key) (key : Key) (entries : Entries) : Except Fault Entries :=
  descend .outerHeader place .header entries path
where
  place (_ : Origin) (entries : Entries) : Except Fault Entries :=
    match entries.lookup key with
    | none                          => .ok (put key (.table .header []) entries)
    | some (.table .outerHeader es) => .ok (put key (.table .header es) entries)
    | some _                        => .error (.duplicateKey key)

-- Opens one more table of the array that a header names.
def openElement (path : List Key) (key : Key) (entries : Entries) : Except Fault Entries :=
  descend .outerHeader place .header entries path
where
  place (_ : Origin) (entries : Entries) : Except Fault Entries :=
    match entries.lookup key with
    | none                    => .ok (put key (.tables [[]]) entries)
    | some (.tables elements) => .ok (put key (.tables (elements ++ [[]])) entries)
    | some _                  => .error (.duplicateKey key)

end Entries
end Toml
end BuildConfig
