import JavaCensus.Number.Digit
import JavaCensus.Number.Real64
import JavaCensus.Text.Blank

/-!
# Number literals

Integers and numbers as a user writes them: blanks around them, a sign in front, an underscore
between two digits, and digits of any script.
-/
namespace JavaCensus

/-- Blanks that may stand around a number: all but the four ASCII separators. -/
def isMargin (c : Char) : Bool :=
  Text.isBlank c && !(28 ≤ c.toNat && c.toNat ≤ 31)

/-- A sign in front, and whether it is a minus. -/
def readSign : List Char → Bool × List Char
  | '+' :: cs => (false, cs)
  | '-' :: cs => (true, cs)
  | cs => (false, cs)

/-- A run of digits; an underscore is passed over where a digit follows. -/
def readDigits : List Char → List Nat × List Char
  | [] => ([], [])
  | c :: cs =>
    match digitValue? c with
    | none => ([], c :: cs)
    | some d =>
      match cs with
      | '_' :: x :: rest =>
        if (digitValue? x).isSome then
          let (ds, left) := readDigits (x :: rest)
          (d :: ds, left)
        else ([d], '_' :: x :: rest)
      | cs =>
        let (ds, left) := readDigits cs
        (d :: ds, left)

/-- The number that digits stand for. -/
def ofDigits (ds : List Nat) : Nat :=
  ds.foldl (fun n d => 10 * n + d) 0

/-- The most digits that an integer is read or written with. -/
def digitLimit : Nat := 4300

/-- The digits that a written integer starts with; an underscore may not follow them. -/
def leadingDigits (text : String) : List Nat :=
  let (_, rest) := readSign (Text.trim isMargin text.toList)
  match readDigits rest with
  | (_, '_' :: _) => []
  | (ds, _) => ds

/-- Reads an integer. -/
def readInteger? (text : String) : Option Int :=
  let (negative, rest) := readSign (Text.trim isMargin text.toList)
  match readDigits rest with
  | (d :: ds, []) => some (if negative then -(ofDigits (d :: ds) : Int) else ofDigits (d :: ds))
  | _ => none

/-- The digits after a point, if there is one. -/
def readPlaces : List Char → List Nat × List Char
  | '.' :: cs => readDigits cs
  | cs => ([], cs)

/-- An exponent, zero if there is none. -/
def readExponent? : List Char → Option Int
  | [] => some 0
  | c :: cs =>
    if c = 'e' ∨ c = 'E' then
      let (negative, rest) := readSign cs
      match readDigits rest with
      | (d :: ds, []) => some (if negative then -(ofDigits (d :: ds) : Int) else ofDigits (d :: ds))
      | _ => none
    else none

/-- The words for numbers that are not finite, in any case. -/
def readWord? (negative : Bool) (cs : List Char) : Option Real64 :=
  let word := String.ofList (cs.map Char.toLower)
  if word = "inf" ∨ word = "infinity" then some (.infinite negative)
  else if word = "nan" then some .nan
  else none

/-- Reads a number. -/
def readReal? (text : String) : Option Real64 :=
  let (negative, rest) := readSign (Text.trim isMargin text.toList)
  match readWord? negative rest with
  | some x => some x
  | none =>
    let (whole, afterWhole) := readDigits rest
    let (places, afterPlaces) := readPlaces afterWhole
    if whole.isEmpty && places.isEmpty then none
    else (readExponent? afterPlaces).map fun e =>
      .ofDecimal negative (ofDigits (whole ++ places)) (e - places.length)

end JavaCensus
