import JavaCensus.Toml.Value

/-!
# Nested tables

Tables that grow by dotted keys. A key may lead through tables and, where that is allowed, through
the last table of an array of tables.
-/
namespace JavaCensus.Toml

abbrev Key := List String

abbrev Entries := List (String × Value)

/-- Replaces the value of a key, or adds it at the end. -/
def setEntry (key : String) (v : Value) : Entries → Entries
  | [] => [(key, v)]
  | (k, w) :: rest => if k = key then (k, v) :: rest else (k, w) :: setEntry key v rest

def lookup? (key : String) (entries : Entries) : Option Value :=
  (entries.find? (·.1 == key)).map (·.2)

/-- Applies `f` to the table that a value is or, of an array, that its last element is. -/
def inTable? (throughArrays : Bool) (f : Entries → Option Entries) : Value → Option Value
  | .table entries => (f entries).map .table
  | .array elements =>
    match throughArrays, elements.getLast? with
    | true, some (.table entries) =>
      (f entries).map fun entries => .array (elements.dropLast ++ [.table entries])
    | _, _ => none
  | _ => none

/-- Applies `f` to the table that a key leads to; tables on the way are made if need be. -/
def atKey? (throughArrays : Bool) (f : Entries → Option Entries) : Key → Entries → Option Entries
  | [], entries => f entries
  | k :: ks, entries =>
    let value := (lookup? k entries).getD (.table [])
    (inTable? throughArrays (atKey? throughArrays f ks) value).map fun v => setEntry k v entries

/-- Adds an entry whose key is not there yet. -/
def insertNew? (key : String) (v : Value) (entries : Entries) : Option Entries :=
  match lookup? key entries with
  | some _ => none
  | none => some (setEntry key v entries)

/-- Adds an empty table to an array of tables, which is made if need be. -/
def appendTable? (key : String) (entries : Entries) : Option Entries :=
  match lookup? key entries with
  | none => some (setEntry key (.array [.table []]) entries)
  | some (.array elements) => some (setEntry key (.array (elements ++ [.table []])) entries)
  | some _ => none

/-- The last part of a key and what comes before it. -/
def splitKey : Key → Key × String
  | [] => ([], "")
  | [k] => ([], k)
  | k :: ks =>
    let (parents, stem) := splitKey ks
    (k :: parents, stem)

end JavaCensus.Toml
