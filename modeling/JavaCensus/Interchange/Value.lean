import JavaCensus.Json.Access
import JavaCensus.Toml.Nest

/-!
# Values as documents

Dates and times have no document of their own and are written as their text.
-/
namespace JavaCensus

namespace Value

mutual

def ofJson : Json → Value
  | .null => nothing
  | .bool b => boolean b
  | .int n => integer n
  | .real x => real x
  | .string s => string s
  | .array es => array (ofElements es)
  | .object ms => table (ofMembers ms)

def ofElements : List Json → List Value
  | [] => []
  | e :: es => ofJson e :: ofElements es

def ofMembers : List (String × Json) → List (String × Value)
  | [] => []
  | (key, value) :: ms => (key, ofJson value) :: ofMembers ms

end

mutual

def toJson : Value → Json
  | nothing => .null
  | boolean b => .bool b
  | integer n => .int n
  | real x => .real x
  | string s => .string s
  | array es => .array (toElements es)
  | table ms => .object (toMembers ms)
  | v => .string v.text

def toElements : List Value → List Json
  | [] => []
  | v :: vs => toJson v :: toElements vs

def toMembers : List (String × Value) → List (String × Json)
  | [] => []
  | (key, value) :: ms => (key, toJson value) :: toMembers ms

end

/-- The entries of an object; a later member replaces an earlier one of the same key. -/
def entries (j : Json) : Toml.Entries :=
  j.members.foldl (fun t (key, value) => Toml.setEntry key (ofJson value) t) []

end Value

end JavaCensus
