import JavaCensus.Text.Encoding.Chinese
import JavaCensus.Text.Encoding.Japanese
import JavaCensus.Text.Encoding.Korean
import JavaCensus.Text.Encoding.Pages

/-!
# Switching encodings

Encodings of ISO 2022: escapes name the character sets that the following bytes are read in.
-/
namespace JavaCensus.Text.Switching

/-- The character sets that escapes name. -/
inductive CharSet where
  | ascii
  | japaneseRoman
  | katakana
  | jisX0208
  | jisX0212
  | jisX0213 (edition : JapaneseSet)
  | jisX0213Plane2
  | gb2312
  | ksX1001
  | latin
  | greek
  deriving DecidableEq, Repr

namespace CharSet

/-- Whether two bytes make a character. -/
def isDouble : CharSet → Bool
  | jisX0208 | jisX0212 | jisX0213 _ | jisX0213Plane2 | gb2312 | ksX1001 => true
  | ascii | japaneseRoman | katakana | latin | greek => false

/-- The character of a byte in a set of single bytes; two of the sets are for lone characters
only. -/
def single? (s : CharSet) (b : Nat) : Option Char :=
  match s with
  | ascii => asciiChar? b
  | japaneseRoman => japaneseRoman? b
  | katakana => katakana? (b + 0x80)
  | _ => none

/-- The text of a cell. -/
def double? (s : CharSet) (row cell : Nat) : Option (List Char) :=
  match s with
  | jisX0208 => JapaneseSet.basic.plane1? row cell
  | jisX0212 => alone (Text.jisX0212.cell? row cell)
  | jisX0213 edition =>
    if row = 2 ∧ cell = 18 then some ['~'] else edition.plane1? row cell
  | jisX0213Plane2 => JapaneseSet.revised.plane2? row cell
  | gb2312 => alone (Text.gb2312.cell? row cell)
  | ksX1001 => alone (Text.ksX1001.cell? row cell)
  | _ => none

/-- The Greek page as it was before three cells were filled. -/
def greekChar? (b : Nat) : Option Char :=
  if b < 0x80 then some (.ofNat b)
  else if b = 0xA4 ∨ b = 0xA5 ∨ b = 0xAA then none
  else
    match codePages.find? (·.1 == "iso8859_7") with
    | some (_, upper) => (upper.toList[b - 0x80]?).filter (· != '\uFFFF')
    | none => none

/-- The character of a byte that stands alone behind an escape. -/
def lone? (s : CharSet) (b : Nat) : Option Char :=
  match s with
  | ascii => asciiChar? b
  | latin => if b < 0x80 then some (.ofNat (b + 0x80)) else none
  | greek => greekChar? (if b < 0x80 then b + 0x80 else b - 0x80)
  | _ => none

end CharSet

/-- How sets are named, single ones by a letter alone and double ones behind a dollar sign. -/
structure Code where
  singles : List (Char × CharSet)
  doubles : List (Char × CharSet)
  hasShifts : Bool := false
  hasLoneSet : Bool := false
  hasRevisions : Bool := true

namespace Code

def japanese : Code :=
  { singles := [('J', .japaneseRoman)], doubles := [('B', .jisX0208), ('@', .jisX0208)] }

def japanese1 : Code :=
  { japanese with doubles := japanese.doubles ++ [('D', .jisX0212)] }

def japanese2 : Code :=
  { singles := japanese.singles ++ [('A', .latin), ('F', .greek)]
    doubles := japanese1.doubles ++ [('A', .gb2312), ('C', .ksX1001)]
    hasLoneSet := true }

def japanese3 : Code :=
  { singles := []
    doubles := [('B', .jisX0208), ('O', .jisX0213 .extended), ('P', .jisX0213Plane2)] }

def japanese2004 : Code :=
  { singles := []
    doubles := [('B', .jisX0208), ('Q', .jisX0213 .revised), ('P', .jisX0213Plane2)] }

def japaneseExtended : Code :=
  { japanese1 with singles := japanese1.singles ++ [('I', .katakana)] }

def korean : Code :=
  { singles := [], doubles := [('C', .ksX1001)], hasShifts := true, hasRevisions := false }

end Code

/-- What is named at a place of the text: the set in use, the one behind a shift, and the one for
lone characters. Behind a foreign escape all is passed through up to its end. -/
structure State where
  main : CharSet := .ascii
  shifted : CharSet := .ascii
  lone : CharSet := .ascii
  isShifted : Bool := false
  isForeign : Bool := false

/-- Which set an escape names. -/
inductive Slot where
  | main
  | shifted
  | lone

def State.assign (s : State) (slot : Slot) (set : CharSet) : State :=
  match slot with
  | .main => { s with main := set }
  | .shifted => { s with shifted := set }
  | .lone => { s with lone := set }

/-- The letters that end an escape. -/
def endsEscape (b : Nat) : Bool :=
  (0x41 ≤ b && b ≤ 0x5A) || b == 0x40

def singleSet? (c : Code) (b : Nat) : Option CharSet :=
  if b = 0x42 then some .ascii
  else (c.singles.find? fun (letter, _) => letter.toNat == b).map (·.2)

def doubleSet? (c : Code) (b : Nat) : Option CharSet :=
  (c.doubles.find? fun (letter, _) => letter.toNat == b).map (·.2)

/-- An escape may stand before the one that names JIS X 0208, to tell a revision of it. -/
def revision? (c : Code) : List Nat → Option (Slot × CharSet × List Nat)
  | 0x1B :: 0x24 :: 0x42 :: rest =>
    if c.hasRevisions then some (.main, .jisX0208, rest) else none
  | _ => none

/-- The slot and the set that the bytes behind an escape name, and what follows them. -/
def designation? (c : Code) : List Nat → Option (Slot × CharSet × List Nat)
  | x :: y :: rest =>
    if x = 0x26 ∧ y = 0x40 then revision? c rest
    else if endsEscape y then
      if x = 0x24 then (doubleSet? c y).map (.main, ·, rest)
      else if x = 0x28 then (singleSet? c y).map (.main, ·, rest)
      else if x = 0x29 then (singleSet? c y).map (.shifted, ·, rest)
      else if x = 0x2E ∧ c.hasLoneSet then (singleSet? c y).map (.lone, ·, rest)
      else none
    else
      match rest with
      | z :: after =>
        if endsEscape z then
          if x = 0x24 ∧ y = 0x28 then (doubleSet? c z).map (.main, ·, after)
          else if x = 0x24 ∧ y = 0x29 then (doubleSet? c z).map (.shifted, ·, after)
          else none
        else revision? c rest
      | [] => none
  | _ => none

/-- The bytes behind which an escape names a set. -/
def opensDesignation (b : Nat) : Bool :=
  b == 0x28 || b == 0x29 || b == 0x24 || b == 0x2E || b == 0x26

/-- Reads a text; the fuel bounds the steps. -/
def decodeFrom? (c : Code) : Nat → State → List Nat → Option (List Char)
  | _, _, [] => some []
  | 0, _, _ => none
  | fuel + 1, s, a :: rest =>
    let next (s : State) (text : List Char) (rest : List Nat) : Option (List Char) :=
      (decodeFrom? c fuel s rest).map (text ++ ·)
    if s.isForeign then
      next (if endsEscape a then { s with isForeign := false } else s) [.ofNat a] rest
    else if a = 0x1B then
      match rest with
      | [] => none
      | b :: after =>
        if opensDesignation b then
          (designation? c rest).bind fun (slot, set, rest) => next (s.assign slot set) [] rest
        else if c.hasLoneSet ∧ b = 0x4E then
          match after with
          | [] => none
          | x :: rest => (s.lone.lone? x).bind fun c => next s [c] rest
        else next { s with isForeign := true } ['\x1b'] rest
    else if a = 0x0E ∧ c.hasShifts then next { s with isShifted := true } [] rest
    else if a = 0x0F ∧ c.hasShifts then next { s with isShifted := false } [] rest
    else if a = 0x0A then next { s with isShifted := false } ['\n'] rest
    else if a < 0x20 then next s [.ofNat a] rest
    else
      let set := if s.isShifted then s.shifted else s.main
      if set.isDouble then
        match rest with
        | [] => none
        | b :: rest => (set.double? (a - 0x20) (b - 0x20)).bind fun text => next s text rest
      else if a < 0x80 then (set.single? a).bind fun c => next s [c] rest
      else none

def Code.decode? (c : Code) (bytes : List Nat) : Option (List Char) :=
  decodeFrom? c (bytes.length + 1) {} bytes

end JavaCensus.Text.Switching
