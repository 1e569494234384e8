import JavaCensus.Text.Encoding.ByteCode
import JavaCensus.Text.Encoding.KsX1001

/-!
# Korean encodings

KS X 1001 with the high bit set, two ways to have all syllables: in free cells around it, and by the
letters that a syllable is made of; and a third way that spells a syllable by four cells.
-/
namespace JavaCensus.Text

/-! ## Syllables -/

namespace Hangul

def initials : List Char := "ㄱㄲㄴㄷㄸㄹㅁㅂㅃㅅㅆㅇㅈㅉㅊㅋㅌㅍㅎ".toList

def finals : List Char := "ㄱㄲㄳㄴㄵㄶㄷㄹㄺㄻㄼㄽㄾㄿㅀㅁㅂㅄㅅㅆㅇㅈㅊㅋㅌㅍㅎ".toList

/-- The first syllable, and how many there are. -/
def firstSyllable : Nat := 0xAC00

def syllableCount : Nat := 11172

/-- The syllable of an initial, a medial and a final, which is zero for none. -/
def syllable (initial medial final : Nat) : Char :=
  .ofNat (firstSyllable + 588 * initial + 28 * medial + final)

def medial (index : Nat) : Char := .ofNat (0x314F + index)

end Hangul

/-! ## With the high bit set -/

namespace EucKorean

/-- The letter of a cell in the row of letters. -/
def letter (b : Nat) : Char := .ofNat (0x3131 + (b - 0xA1))

/-- The cell that stands for no letter. -/
def filler : Nat := 0xD4

def initial? (b : Nat) : Option Nat :=
  if 0xA1 ≤ b ∧ b ≤ 0xBE then Hangul.initials.idxOf? (letter b) else none

def medial? (b : Nat) : Option Nat :=
  if 0xBF ≤ b ∧ b ≤ 0xD3 then some (b - 0xBF) else none

def final? (b : Nat) : Option Nat :=
  if b = filler then some 0
  else if 0xA1 ≤ b ∧ b ≤ 0xBE then (Hangul.finals.idxOf? (letter b)).map (· + 1) else none

/-- The syllable that three letters spell. -/
def spelled? (i m f : Nat) : Option Char := do
  return Hangul.syllable (← initial? i) (← medial? m) (← final? f)

def double? (a b : Nat) : Option Char :=
  if 0xA1 ≤ a ∧ 0xA1 ≤ b then ksX1001.cell? (a - 0xA0) (b - 0xA0) else none

/-- A filler opens the spelling of a syllable by three more cells of the row of letters. -/
def decode? : List Nat → Option (List Char)
  | [] => some []
  | a :: rest =>
    match asciiChar? a with
    | some c => (decode? rest).map (c :: ·)
    | none =>
      match rest with
      | [] => none
      | b :: rest =>
        if a = 0xA4 ∧ b = filler then
          match rest with
          | 0xA4 :: i :: 0xA4 :: m :: 0xA4 :: f :: rest =>
            (spelled? i m f).bind fun c => (decode? rest).map (c :: ·)
          | _ => none
        else (double? a b).bind fun c => (decode? rest).map (c :: ·)

end EucKorean

/-! ## Free cells -/

namespace UnifiedHangul

/-- The number of a second byte below `A1` or behind a first byte below it. -/
def trail? (b : Nat) : Option Nat :=
  if 0x41 ≤ b ∧ b ≤ 0x5A then some (b - 0x41)
  else if 0x61 ≤ b ∧ b ≤ 0x7A then some (b - 0x61 + 26)
  else if 0x81 ≤ b ∧ b ≤ 0xFE then some (b - 0x81 + 52)
  else none

/-- The number of a free cell. -/
def freeCell? (a b : Nat) : Option Nat := do
  let t ← trail? b
  if 0x81 ≤ a ∧ a ≤ 0xA0 then some (178 * (a - 0x81) + t)
  else if 0xA1 ≤ a ∧ t < 84 then some (178 * 32 + 84 * (a - 0xA1) + t)
  else none

/-- The syllables that KS X 1001 has not, in order. -/
def furtherSyllables : Array Char :=
  unlisted Hangul.firstSyllable (Hangul.firstSyllable + Hangul.syllableCount) ksX1001.toList

/-- The free cells hold the further syllables in order. -/
def double? (a b : Nat) : Option (List Char) :=
  alone (EucKorean.double? a b <|> (freeCell? a b).bind (furtherSyllables[·]?))

def code : ByteCode :=
  { one := asciiChar?, two := double? }

end UnifiedHangul

/-! ## By letters -/

namespace Johab

/-- A letter of five bits, or none. -/
inductive Slot where
  | empty
  | letter (index : Nat)

def initial? (n : Nat) : Option Slot :=
  if n = 1 then some .empty else if 2 ≤ n ∧ n ≤ 20 then some (.letter (n - 2)) else none

/-- The numbers of medials leave out two in each eight. -/
def medial? (n : Nat) : Option Slot :=
  if n = 2 then some .empty
  else if 3 ≤ n ∧ n ≤ 29 ∧ 2 ≤ n % 8 then some (.letter (n - 3 - 2 * (n / 8))) else none

def final? (n : Nat) : Option Slot :=
  if n = 1 then some .empty
  else if 2 ≤ n ∧ n ≤ 17 then some (.letter (n - 2))
  else if 19 ≤ n ∧ n ≤ 29 then some (.letter (n - 3)) else none

/-- A syllable, or a letter alone. -/
def hangul? (a b : Nat) : Option Char := do
  let i ← initial? (a / 4 % 32)
  let m ← medial? (8 * (a % 4) + b / 32)
  let f ← final? (b % 32)
  match i, m, f with
  | .empty, .empty, .empty => some '\u3000'
  | .letter i, .empty, .empty => Hangul.initials[i]?
  | .empty, .letter m, .empty => some (Hangul.medial m)
  | .empty, .empty, .letter f => Hangul.finals[f]?
  | .letter i, .letter m, .empty => some (Hangul.syllable i m 0)
  | .letter i, .letter m, .letter f => some (Hangul.syllable i m (f + 1))
  | _, _, _ => none

/-- The cell of KS X 1001 of a symbol or a Han character; letters have no cell here. -/
def place? (a b : Nat) : Option (Nat × Nat) := do
  let rows ←
    if 0xD9 ≤ a ∧ a ≤ 0xDE then some (2 * (a - 0xD9))
    else if 0xE0 ≤ a ∧ a ≤ 0xF9 then some (2 * (a - 0xE0) + 41) else none
  let cell ←
    if 0x31 ≤ b ∧ b ≤ 0x7E then some (b - 0x31)
    else if 0x91 ≤ b ∧ b ≤ 0xFE then some (b - 0x43) else none
  if a = 0xDA ∧ 0xA1 ≤ b ∧ b ≤ 0xD3 then none
  else some (rows + 1 + cell / 94, cell % 94 + 1)

def double? (a b : Nat) : Option (List Char) :=
  alone (if a < 0xD8 then hangul? a b
    else (place? a b).bind fun (row, cell) => ksX1001.cell? row cell)

def code : ByteCode :=
  { one := asciiChar?, two := double? }

end Johab

end JavaCensus.Text
