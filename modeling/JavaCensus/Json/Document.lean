import JavaCensus.Number.Shortest
import JavaCensus.Text.Quoted

/-!
# JSON documents

Documents as values, and their text over several lines with two spaces per level. The text is
ASCII: other characters are escaped as UTF-16 units.
-/
namespace JavaCensus

/-- The members of an object stand in the order in which they are written. -/
inductive Json where
  | null
  | bool (b : Bool)
  | int (n : Int)
  | real (x : Real64)
  | string (s : String)
  | array (elements : List Json)
  | object (members : List (String × Json))

namespace Json

def unitEscape (n : Nat) : List Char :=
  '\\' :: 'u' :: Text.hexDigits 4 n

/-- How a character is written in a string. -/
def escapedChar (c : Char) : List Char :=
  let n := c.toNat
  if c = '"' ∨ c = '\\' then ['\\', c]
  else if c = '\n' then ['\\', 'n']
  else if c = '\r' then ['\\', 'r']
  else if c = '\t' then ['\\', 't']
  else if n = 8 then ['\\', 'b']
  else if n = 12 then ['\\', 'f']
  else if 32 ≤ n ∧ n ≤ 126 then [c]
  else if n < 0x10000 then unitEscape n
  else unitEscape (0xD800 + (n - 0x10000) / 0x400) ++ unitEscape (0xDC00 + (n - 0x10000) % 0x400)

def stringText (s : String) : String :=
  "\"" ++ .ofList (s.toList.flatMap escapedChar) ++ "\""

def realText : Real64 → String
  | .nan => "NaN"
  | .infinite negative => if negative then "-Infinity" else "Infinity"
  | x => x.text

/-- A new line at a level. -/
def newline (level : Nat) : String :=
  "\n" ++ .ofList (List.replicate (2 * level) ' ')

/-- Items on lines of their own between brackets; without items the brackets stand together. -/
def bracketed (left right : String) (level : Nat) (items : List String) : String :=
  if items.isEmpty then left ++ right
  else left ++ newline (level + 1) ++ ("," ++ newline (level + 1)).intercalate items ++
    newline level ++ right

mutual

/-- The text of a document that stands at a level. -/
def textAt (level : Nat) : Json → String
  | null => "null"
  | bool b => if b then "true" else "false"
  | int n => toString n
  | real x => realText x
  | string s => stringText s
  | array elements => bracketed "[" "]" level (elementTexts (level + 1) elements)
  | object members => bracketed "\x7b" "\x7d" level (memberTexts (level + 1) members)

def elementTexts (level : Nat) : List Json → List String
  | [] => []
  | e :: es => textAt level e :: elementTexts level es

def memberTexts (level : Nat) : List (String × Json) → List String
  | [] => []
  | (key, value) :: ms => (stringText key ++ ": " ++ textAt level value) :: memberTexts level ms

end

/-- The text over several lines. -/
def text (j : Json) : String :=
  j.textAt 0

mutual

/-- The text on one line, without spaces. -/
def lineText : Json → String
  | array elements => "[" ++ ",".intercalate (elementLines elements) ++ "]"
  | object members => "\x7b" ++ ",".intercalate (memberLines members) ++ "\x7d"
  | j => j.textAt 0

def elementLines : List Json → List String
  | [] => []
  | e :: es => lineText e :: elementLines es

def memberLines : List (String × Json) → List String
  | [] => []
  | (key, value) :: ms => (stringText key ++ ":" ++ lineText value) :: memberLines ms

end

end Json

end JavaCensus
