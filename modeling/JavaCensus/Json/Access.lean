import JavaCensus.Json.Document

/-!
# Looking into JSON documents

A member that is missing, null or of another kind gives a default, so looking never fails.
-/
namespace JavaCensus

namespace Json

def members : Json → List (String × Json)
  | object ms => ms
  | _ => []

def elements : Json → List Json
  | array es => es
  | _ => []

/-- The last member of the given name. -/
def member? (j : Json) (key : String) : Option Json :=
  (j.members.reverse.find? (·.1 == key)).map (·.2)

/-- A member, null if there is none. -/
def member (j : Json) (key : String) : Json :=
  (j.member? key).getD null

/-- An element, null if there is none. -/
def element (j : Json) (i : Nat) : Json :=
  (j.elements[i]?).getD null

def isNull : Json → Bool
  | null => true
  | _ => false

/-- A member that is there and not null. -/
def present? (j : Json) (key : String) : Option Json :=
  (j.member? key).filter fun v => !v.isNull

def string? : Json → Option String
  | string s => some s
  | _ => none

def int? : Json → Option Int
  | int n => some n
  | _ => none

def bool? : Json → Option Bool
  | bool b => some b
  | _ => none

def toText (j : Json) : String := j.string?.getD ""

def toInt (j : Json) : Int := j.int?.getD 0

def toNat (j : Json) : Nat := j.toInt.toNat

def toBool (j : Json) : Bool := j.bool?.getD false

def text? (j : Json) (key : String) : Option String := (j.member key).string?

def textOr (j : Json) (key default : String) : String := (j.text? key).getD default

def listOf (j : Json) (key : String) : List Json := (j.member key).elements

end Json

end JavaCensus
