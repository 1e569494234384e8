import JavaCensus.Text.Encoding.ByteCode
import JavaCensus.Text.Encoding.JisX0208
import JavaCensus.Text.Encoding.JisX0212
import JavaCensus.Text.Encoding.JisX0213
import JavaCensus.Text.Encoding.VendorJapanese

/-!
# Japanese encodings

The sets of Japanese characters, and the two ways in which their rows and cells are put into bytes:
shifted between the bytes of half-width katakana, or as they are with the high bit set.
-/
namespace JavaCensus.Text

/-- The basic set has JIS X 0208 and JIS X 0212, the extended ones have JIS X 0213. -/
inductive JapaneseSet where
  | basic
  | vendor
  | extended
  | revised
  deriving DecidableEq, Repr

namespace JapaneseSet

/-- The two characters of a cell that holds two. -/
def pair? (row cell : Nat) : Option (List Char) :=
  (jisX0213Pairs.find? fun (r, c, _) => r == row && c == cell).map fun (_, _, text) => text.toList

/-- What the revision of JIS X 0213 changed in the second plane: the cell and what was there. -/
def unrevised : Nat × Nat × Char := (93, 27, '鬝')

/-- The first plane. Rows beyond the ninety-fourth are there for vendors only: their own characters
and, before them, those of users. -/
def plane1? (s : JapaneseSet) (row cell : Nat) : Option (List Char) :=
  match s with
  | basic => alone (jisX0208.cell? row cell)
  | vendor =>
    if 95 ≤ row ∧ row ≤ 114 then some [.ofNat (0xE000 + 94 * (row - 95) + (cell - 1))]
    else
      alone (vendorVariants.cell? row cell <|> jisX0208.cell? row cell <|>
        vendorJapanese.cell? row cell)
  | extended =>
    alone (jisX0208.cell? row cell <|> jisX0213Additions.cell? row cell) <|> pair? row cell
  | revised =>
    alone (jisX0208.cell? row cell <|> jisX0213Additions.cell? row cell <|>
      jisX0213Revision.cell? row cell) <|> pair? row cell

/-- The second plane, which only the extended sets have. -/
def plane2? (s : JapaneseSet) (row cell : Nat) : Option (List Char) :=
  match s with
  | basic | vendor => none
  | extended =>
    if row = unrevised.1 ∧ cell = unrevised.2.1 then some [unrevised.2.2]
    else alone (jisX0213Plane2.cell? row cell)
  | revised => alone (jisX0213Plane2.cell? row cell)

/-- Whether a set has the second plane. -/
def isWide : JapaneseSet → Bool
  | basic | vendor => false
  | extended | revised => true

end JapaneseSet

/-- Half-width katakana. -/
def katakana? (b : Nat) : Option Char :=
  if 0xA1 ≤ b ∧ b ≤ 0xDF then some (.ofNat (0xFF61 + (b - 0xA1))) else none

/-- ASCII as the Japanese standard has it, with a yen sign and an overline. -/
def japaneseRoman? (b : Nat) : Option Char :=
  if b = 0x5C then some '¥' else if b = 0x7E then some '‾' else asciiChar? b

/-! ## Shifted -/

namespace ShiftJis

/-- The row and the cell that two bytes stand for, counted through both planes. -/
def place? (a b : Nat) : Option (Nat × Nat) := do
  let pairOfRows ←
    if 0x81 ≤ a ∧ a ≤ 0x9F then some (a - 0x81)
    else if 0xE0 ≤ a ∧ a ≤ 0xFC then some (a - 0xC1) else none
  let cell ←
    if 0x40 ≤ b ∧ b ≤ 0x7E then some (b - 0x40)
    else if 0x80 ≤ b ∧ b ≤ 0xFC then some (b - 0x41) else none
  return (2 * pairOfRows + 1 + cell / 94, cell % 94 + 1)

/-- The rows of the second plane, in the order in which they follow the first. -/
def rowsOfPlane2 : List Nat :=
  [1, 8, 3, 4, 5, 12, 13, 14, 15] ++ List.range' 78 17

/-- The extended sets have a yen sign and an overline, and so keep the ASCII forms in double bytes. -/
def double? (s : JapaneseSet) (a b : Nat) : Option (List Char) := do
  let (row, cell) ← place? a b
  if s.isWide then
    if row ≤ 94 then
      if row = 1 ∧ cell = 32 then some ['\\']
      else if row = 2 ∧ cell = 18 then some ['~']
      else s.plane1? row cell
    else s.plane2? (← rowsOfPlane2[row - 95]?) cell
  else s.plane1? row cell

/-- Bytes that vendors left without a Japanese character. -/
def vendorSpare? (b : Nat) : Option Char :=
  if b = 0x80 then some '\u0080'
  else if b = 0xA0 then some '\uF8F0'
  else if 0xFD ≤ b ∧ b ≤ 0xFF then some (.ofNat (0xF8F1 + (b - 0xFD)))
  else none

def single? (s : JapaneseSet) (b : Nat) : Option Char :=
  match s with
  | .basic => asciiChar? b <|> katakana? b
  | .vendor => asciiChar? b <|> katakana? b <|> vendorSpare? b
  | .extended | .revised => japaneseRoman? b <|> katakana? b

def code (s : JapaneseSet) : ByteCode :=
  { one := single? s, two := double? s }

end ShiftJis

/-! ## With the high bit set -/

namespace EucJapanese

/-- A cell by its bytes. -/
def double? (s : JapaneseSet) (a b : Nat) : Option (List Char) :=
  if a = 0x8E then alone (katakana? b)
  else if 0xA1 ≤ a ∧ 0xA1 ≤ b then s.plane1? (a - 0xA0) (b - 0xA0)
  else none

/-- A cell of the second plane, or of JIS X 0212, whose rows lie between those of the plane. -/
def triple? (s : JapaneseSet) (a b c : Nat) : Option (List Char) :=
  if a = 0x8F ∧ 0xA1 ≤ b ∧ 0xA1 ≤ c then
    s.plane2? (b - 0xA0) (c - 0xA0) <|> alone (jisX0212.cell? (b - 0xA0) (c - 0xA0))
  else none

def code (s : JapaneseSet) : ByteCode :=
  { one := asciiChar?, two := double? s, three := triple? s }

end EucJapanese

end JavaCensus.Text
