import JavaCensus.Json.Document
import JavaCensus.Number.Literal

/-!
# Reading JSON

A document is read from the front; each reader gives what it has read and the rest of the text.
Besides the numbers of the standard, the words for numbers that are not finite are read.
-/
namespace JavaCensus

namespace Json

def isSpace (c : Char) : Bool :=
  c == ' ' || c == '\t' || c == '\n' || c == '\r'

def skipSpace (cs : List Char) : List Char :=
  cs.dropWhile isSpace

/-- The text behind a word, if it starts with the word. -/
def after? : List Char → List Char → Option (List Char)
  | [], cs => some cs
  | w :: ws, c :: cs => if w = c then after? ws cs else none
  | _ :: _, [] => none

def hexValue? (c : Char) : Option Nat :=
  if '0' ≤ c ∧ c ≤ '9' then some (c.toNat - 48)
  else if 'a' ≤ c ∧ c ≤ 'f' then some (c.toNat - 87)
  else if 'A' ≤ c ∧ c ≤ 'F' then some (c.toNat - 55)
  else none

/-- Reads a number of exactly `width` hexadecimal digits. -/
def readHex? : Nat → Nat → List Char → Option (Nat × List Char)
  | 0, n, cs => some (n, cs)
  | _ + 1, _, [] => none
  | width + 1, n, c :: cs => (hexValue? c).bind fun d => readHex? width (16 * n + d) cs

def escape? : Char → Option Char
  | '"' => some '"'
  | '\\' => some '\\'
  | '/' => some '/'
  | 'b' => some (Char.ofNat 8)
  | 'f' => some (Char.ofNat 12)
  | 'n' => some '\n'
  | 'r' => some '\r'
  | 't' => some '\t'
  | _ => none

/-- The character of a UTF-16 unit that stands alone; half a pair is replaced. -/
def unitChar (n : Nat) : Char :=
  if 0xD800 ≤ n ∧ n ≤ 0xDFFF then '\uFFFD' else Char.ofNat n

/-- Reads the unit of an escape whose first two characters have been read, and with it the second
half of a pair. -/
def readUnit? (cs : List Char) : Option (Char × List Char) := do
  let (first, rest) ← readHex? 4 0 cs
  if 0xD800 ≤ first ∧ first ≤ 0xDBFF then
    match rest with
    | '\\' :: 'u' :: more =>
      let (second, left) ← readHex? 4 0 more
      if 0xDC00 ≤ second ∧ second ≤ 0xDFFF then
        return (Char.ofNat (0x10000 + (first - 0xD800) * 0x400 + (second - 0xDC00)), left)
      else return (unitChar first, rest)
    | _ => return (unitChar first, rest)
  else return (unitChar first, rest)

/-- Reads a string behind its opening quote. -/
def readString? : Nat → List Char → Option (List Char × List Char)
  | 0, _ => none
  | _, [] => none
  | _ + 1, '"' :: cs => some ([], cs)
  | fuel + 1, '\\' :: 'u' :: cs => do
    let (c, rest) ← readUnit? cs
    let (s, left) ← readString? fuel rest
    return (c :: s, left)
  | fuel + 1, '\\' :: e :: cs => do
    let c ← escape? e
    let (s, left) ← readString? fuel cs
    return (c :: s, left)
  | fuel + 1, c :: cs => do
    let (s, left) ← readString? fuel cs
    return (c :: s, left)

def isNumberChar (c : Char) : Bool :=
  c.isDigit || c == '+' || c == '-' || c == '.' || c == 'e' || c == 'E'

/-- An integer if there is neither a point nor an exponent. -/
def numberOf? (cs : List Char) : Option Json :=
  let literal := String.ofList cs
  if cs.any fun c => c == '.' || c == 'e' || c == 'E' then (readReal? literal).map .real
  else (readInteger? literal).map .int

def words : List (String × Json) :=
  [("null", .null), ("true", .bool true), ("false", .bool false), ("NaN", .real .nan),
    ("Infinity", .real (.infinite false)), ("-Infinity", .real (.infinite true))]

def readWord? (cs : List Char) : Option (Json × List Char) :=
  words.findSome? fun (word, value) => (after? word.toList cs).map fun rest => (value, rest)

mutual

/-- Reads a value; the fuel bounds the number of steps. -/
def readValue? : Nat → List Char → Option (Json × List Char)
  | 0, _ => none
  | fuel + 1, cs =>
    match skipSpace cs with
    | '"' :: rest => (readString? (rest.length + 1) rest).map fun (s, left) =>
        (.string (.ofList s), left)
    | '[' :: rest =>
      match skipSpace rest with
      | ']' :: left => some (.array [], left)
      | rest => (readElements? fuel rest).map fun (es, left) => (.array es, left)
    | '\x7b' :: rest =>
      match skipSpace rest with
      | '\x7d' :: left => some (.object [], left)
      | rest => (readMembers? fuel rest).map fun (ms, left) => (.object ms, left)
    | rest =>
      match readWord? rest with
      | some found => some found
      | none => (numberOf? (rest.takeWhile isNumberChar)).map fun n =>
          (n, rest.dropWhile isNumberChar)

/-- Reads the elements of an array, of which there is at least one, and its end. -/
def readElements? : Nat → List Char → Option (List Json × List Char)
  | 0, _ => none
  | fuel + 1, cs => do
    let (e, rest) ← readValue? fuel cs
    match skipSpace rest with
    | ',' :: more =>
      let (es, left) ← readElements? fuel more
      return (e :: es, left)
    | ']' :: left => return ([e], left)
    | _ => none

/-- Reads the members of an object, of which there is at least one, and its end. -/
def readMembers? : Nat → List Char → Option (List (String × Json) × List Char)
  | 0, _ => none
  | fuel + 1, cs => do
    let (key, rest) ← match skipSpace cs with
      | '"' :: rest => readString? (rest.length + 1) rest
      | _ => none
    let rest ← match skipSpace rest with
      | ':' :: rest => some rest
      | _ => none
    let (value, rest) ← readValue? fuel rest
    match skipSpace rest with
    | ',' :: more =>
      let (ms, left) ← readMembers? fuel more
      return ((.ofList key, value) :: ms, left)
    | '\x7d' :: left => return ([(.ofList key, value)], left)
    | _ => none

end

/-- Reads a document that takes up the whole text. -/
def read? (text : String) : Option Json := do
  let cs := text.toList
  let (value, rest) ← readValue? (2 * cs.length + 2) cs
  if (skipSpace rest).isEmpty then some value else none

end Json

end JavaCensus
