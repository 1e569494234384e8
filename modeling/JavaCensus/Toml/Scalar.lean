import JavaCensus.Number.Literal
import JavaCensus.Toml.Value

/-!
# Reading TOML scalars

Strings, numbers, dates and times. Each reader gives what it has read and the rest of the text, or
nothing if the text does not go on in that way.
-/
namespace JavaCensus.Toml

abbrev Rest := List Char

def isSpace (c : Char) : Bool := c == ' ' || c == '\t'

def isSpaceOrBreak (c : Char) : Bool := isSpace c || c == '\n'

def skipSpace (cs : List Char) : Rest := cs.dropWhile isSpace

/-- The text behind a word, if it starts with the word. -/
def after? : List Char → List Char → Option Rest
  | [], cs => some cs
  | w :: ws, c :: cs => if w = c then after? ws cs else none
  | _ :: _, [] => none

/-- Control characters other than the tab, which no string or comment may hold. -/
def isControl (c : Char) : Bool :=
  (c.toNat < 32 && c != '\t') || c.toNat == 127

/-! ## Strings -/

def hexValue? (c : Char) : Option Nat :=
  if '0' ≤ c ∧ c ≤ '9' then some (c.toNat - 48)
  else if 'a' ≤ c ∧ c ≤ 'f' then some (c.toNat - 87)
  else if 'A' ≤ c ∧ c ≤ 'F' then some (c.toNat - 55)
  else none

/-- Reads a character given by exactly `width` hexadecimal digits. -/
def readCodePoint? : Nat → Nat → List Char → Option (Char × Rest)
  | 0, n, cs => if h : n.isValidChar then some (.ofNatAux n h, cs) else none
  | _ + 1, _, [] => none
  | width + 1, n, c :: cs => (hexValue? c).bind fun d => readCodePoint? width (16 * n + d) cs

def escape? : Char → Option Char
  | 'b' => some (Char.ofNat 8)
  | 't' => some '\t'
  | 'n' => some '\n'
  | 'f' => some (Char.ofNat 12)
  | 'r' => some '\r'
  | '"' => some '"'
  | '\\' => some '\\'
  | _ => none

/-- Reads the rest of an escape behind its backslash. -/
def readEscape? : List Char → Option (Char × Rest)
  | 'u' :: cs => readCodePoint? 4 0 cs
  | 'U' :: cs => readCodePoint? 8 0 cs
  | c :: cs => (escape? c).map fun e => (e, cs)
  | [] => none

/-- Behind a backslash at the end of a line all blanks and line breaks are skipped. -/
def joinLines? (cs : List Char) : Option Rest :=
  match cs with
  | '\n' :: rest => some (rest.dropWhile isSpaceOrBreak)
  | c :: _ =>
    if isSpace c then
      match skipSpace cs with
      | [] => some []
      | '\n' :: rest => some (rest.dropWhile isSpaceOrBreak)
      | _ => none
    else none
  | [] => none

/-- Reads a string of one line behind its opening quote; the fuel bounds the steps. -/
def readBasic? : Nat → List Char → Option (List Char × Rest)
  | 0, _ => none
  | _, [] => none
  | _ + 1, '"' :: cs => some ([], cs)
  | fuel + 1, '\\' :: cs => do
    let (c, rest) ← readEscape? cs
    let (s, left) ← readBasic? fuel rest
    return (c :: s, left)
  | fuel + 1, c :: cs =>
    if isControl c then none else (readBasic? fuel cs).map fun (s, left) => (c :: s, left)

/-- Up to two quotes behind the closing ones belong to the string. -/
def closeMultiline (quote : Char) (cs : List Char) : List Char × Rest :=
  match cs with
  | c :: d :: rest =>
    if c = quote then if d = quote then ([c, d], rest) else ([c], d :: rest) else ([], cs)
  | [c] => if c = quote then ([c], []) else ([], cs)
  | [] => ([], [])

/-- Reads a string of several lines behind its opening quotes. -/
def readBasicLines? : Nat → List Char → Option (List Char × Rest)
  | 0, _ => none
  | _, [] => none
  | _ + 1, '"' :: '"' :: '"' :: cs => some (closeMultiline '"' cs)
  | fuel + 1, '\\' :: cs =>
    match joinLines? cs with
    | some rest => readBasicLines? fuel rest
    | none => do
      let (c, rest) ← readEscape? cs
      let (s, left) ← readBasicLines? fuel rest
      return (c :: s, left)
  | fuel + 1, c :: cs =>
    if isControl c && c != '\n' then none
    else (readBasicLines? fuel cs).map fun (s, left) => (c :: s, left)

def readLiteral? : List Char → Option (List Char × Rest)
  | [] => none
  | '\'' :: cs => some ([], cs)
  | c :: cs => if isControl c then none else (readLiteral? cs).map fun (s, left) => (c :: s, left)

def readLiteralLines? : List Char → Option (List Char × Rest)
  | [] => none
  | '\'' :: '\'' :: '\'' :: cs => some (closeMultiline '\'' cs)
  | c :: cs =>
    if isControl c && c != '\n' then none
    else (readLiteralLines? cs).map fun (s, left) => (c :: s, left)

/-- A line break right behind the opening quotes is no part of the string. -/
def dropFirstBreak : List Char → Rest
  | '\n' :: cs => cs
  | cs => cs

/-- Reads a string of any form. -/
def readString? : List Char → Option (List Char × Rest)
  | '"' :: '"' :: '"' :: cs => readBasicLines? (cs.length + 1) (dropFirstBreak cs)
  | '\'' :: '\'' :: '\'' :: cs => readLiteralLines? (dropFirstBreak cs)
  | '"' :: cs => readBasic? (cs.length + 1) cs
  | '\'' :: cs => readLiteral? cs
  | _ => none

/-! ## Dates and times -/

/-- Reads a number of exactly `width` decimal digits. -/
def readFixed? : Nat → Nat → List Char → Option (Nat × Rest)
  | 0, n, cs => some (n, cs)
  | _ + 1, _, [] => none
  | width + 1, n, c :: cs =>
    if c.isDigit then readFixed? width (10 * n + (c.toNat - 48)) cs else none

/-- Reads a number of two digits that lies within bounds. -/
def readPart? (low high : Nat) (cs : List Char) : Option (Nat × Rest) :=
  (readFixed? 2 0 cs).filter fun (n, _) => low ≤ n && n ≤ high

/-- The millionths that the digits behind a decimal point stand for; further digits are dropped. -/
def millionths (digits : List Char) : Nat :=
  ofDigits ((digits.take 6 ++ List.replicate (6 - digits.length) '0').map fun c => c.toNat - 48)

def readFraction (cs : List Char) : Nat × Rest :=
  match cs with
  | '.' :: rest =>
    let digits := rest.takeWhile Char.isDigit
    if digits.isEmpty then (0, cs) else (millionths digits, rest.dropWhile Char.isDigit)
  | _ => (0, cs)

def readTime? (cs : List Char) : Option (TimeOfDay × Rest) := do
  let (hour, rest) ← readPart? 0 23 cs
  let (minute, rest) ← readPart? 0 59 (← after? [':'] rest)
  let (second, rest) ← readPart? 0 59 (← after? [':'] rest)
  let (microsecond, rest) := readFraction rest
  return (⟨hour, minute, second, microsecond⟩, rest)

/-- Reads a date, of any of the days that the longest month has. -/
def readDate? (cs : List Char) : Option (Date × Rest) := do
  let (year, rest) ← readFixed? 4 0 cs
  let (month, rest) ← readPart? 1 12 (← after? ['-'] rest)
  let (day, rest) ← readPart? 1 31 (← after? ['-'] rest)
  return (⟨year, month, day⟩, rest)

/-- Reads hours and minutes of an offset. -/
def readZone? (cs : List Char) : Option (Nat × Rest) := do
  let (hours, rest) ← readPart? 0 23 cs
  let (minutes, rest) ← readPart? 0 59 (← after? [':'] rest)
  return (60 * hours + minutes, rest)

/-- Reads the offset behind a moment, if there is one. -/
def readOffset (cs : List Char) : Option ZoneOffset × Rest :=
  match cs with
  | c :: rest =>
    if c = 'Z' ∨ c = 'z' then (some 0, rest)
    else if c = '+' ∨ c = '-' then
      match readZone? rest with
      | some (minutes, left) => (some (if c = '-' then -(minutes : Int) else minutes), left)
      | none => (none, cs)
    else (none, cs)
  | [] => (none, [])

/-- The time behind a date, if there is one. -/
def readTimeAfterDate? (cs : List Char) : Option (TimeOfDay × Rest) :=
  match cs with
  | c :: rest => if c = 'T' ∨ c = 't' ∨ c = ' ' then readTime? rest else none
  | [] => none

/-- Reads a date with or without a time; a day that the calendar lacks is refused. -/
def readMoment? (cs : List Char) : Option (Option Value × Rest) := do
  let (date, rest) ← readDate? cs
  let (value, left) := match readTimeAfterDate? rest with
    | some (time, rest) =>
      let (offset, left) := readOffset rest
      (Value.moment ⟨date, time⟩ offset, left)
    | none => (.date date, rest)
  return (if date.isValid then some value else none, left)

/-! ## Numbers -/

/-- Reads digits, with single underscores between them. -/
def readRun (isDigit : Char → Bool) : List Char → List Char × Rest
  | [] => ([], [])
  | '_' :: c :: cs =>
    if isDigit c then
      let (ds, left) := readRun isDigit cs
      (c :: ds, left)
    else ([], '_' :: c :: cs)
  | c :: cs =>
    if isDigit c then
      let (ds, left) := readRun isDigit cs
      (c :: ds, left)
    else ([], c :: cs)

/-- Reads at least one digit, the first of which no underscore precedes. -/
def readRun? (isDigit : Char → Bool) (cs : List Char) : Option (List Char × Rest) :=
  match cs with
  | c :: _ => if isDigit c then some (readRun isDigit cs) else none
  | [] => none

/-- The number that digits of a base stand for. -/
def ofBase (base : Nat) (digits : List Char) : Nat :=
  digits.foldl (fun n c => base * n + (hexValue? c).getD 0) 0

/-- Reads digits of one of the bases that have a mark of their own. -/
def readMarked? : List Char → Option (Int × Rest)
  | '0' :: 'x' :: cs => (readRun? (fun c => (hexValue? c).isSome) cs).map fun (ds, left) =>
      (ofBase 16 ds, left)
  | '0' :: 'b' :: cs => (readRun? (fun c => c == '0' || c == '1') cs).map fun (ds, left) =>
      (ofBase 2 ds, left)
  | '0' :: 'o' :: cs => (readRun? (fun c => '0' ≤ c && c ≤ '7') cs).map fun (ds, left) =>
      (ofBase 8 ds, left)
  | _ => none

/-- Reads the whole part of a number: a zero or digits that do not start with one. -/
def readWhole? : List Char → Option (List Char × Rest)
  | '0' :: cs => some (['0'], cs)
  | cs => readRun? Char.isDigit cs

/-- Reads the places behind a point, if there are any. -/
def readPlaces (cs : List Char) : List Char × Rest :=
  match cs with
  | '.' :: rest => (readRun? Char.isDigit rest).getD ([], cs)
  | _ => ([], cs)

/-- Reads an exponent, if there is one. -/
def readExponent (cs : List Char) : Option Int × Rest :=
  match cs with
  | c :: rest =>
    if c = 'e' ∨ c = 'E' then
      let (negative, digits) := readSign rest
      match readRun? Char.isDigit digits with
      | some (ds, left) =>
        (some (if negative then -(ofBase 10 ds : Int) else ofBase 10 ds), left)
      | none => (none, cs)
    else (none, cs)
  | [] => (none, [])

/-- Reads a decimal number; with places or an exponent it is a real one, else it has only so many
digits. -/
def readDecimal? (cs : List Char) : Option (Value × Rest) := do
  let (negative, rest) := readSign cs
  let (whole, rest) ← readWhole? rest
  let (places, rest) := readPlaces rest
  let (exponent, left) := readExponent rest
  if places.isEmpty && exponent.isNone then
    if digitLimit < whole.length then none
    else return (.integer (if negative then -(ofBase 10 whole : Int) else ofBase 10 whole), left)
  else
    return (.real (.ofDecimal negative (ofBase 10 (whole ++ places))
      (exponent.getD 0 - places.length)), left)

/-- The words for truth values and for numbers that are not finite. -/
def words : List (String × Value) :=
  [("true", .boolean true), ("false", .boolean false), ("inf", .real (.infinite false)),
    ("+inf", .real (.infinite false)), ("-inf", .real (.infinite true)), ("nan", .real .nan),
    ("+nan", .real .nan), ("-nan", .real .nan)]

def readWord? (cs : List Char) : Option (Value × Rest) :=
  words.findSome? fun (word, value) => (after? word.toList cs).map fun rest => (value, rest)

/-- Reads a scalar that is no string. -/
def readBare? (cs : List Char) : Option (Value × Rest) :=
  match readMoment? cs with
  | some (value, left) => value.map fun v => (v, left)
  | none =>
    match readTime? cs with
    | some (time, left) => some (.time time, left)
    | none =>
      match readMarked? cs with
      | some (n, left) => some (.integer n, left)
      | none =>
        match readDecimal? cs with
        | some found => some found
        | none => readWord? cs

end JavaCensus.Toml
