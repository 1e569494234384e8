import JavaCensus.Text.Encoding.ByteCode
import JavaCensus.Text.Encoding.Gb2312
import JavaCensus.Text.Encoding.Guobiao

/-!
# Simplified Chinese encodings

GB 2312 with the high bit set, its extension GBK by second bytes below that, and GB 18030, which has
four bytes for all other characters.
-/
namespace JavaCensus.Text

namespace Gb2312

def double? (a b : Nat) : Option Char :=
  if 0xA1 ≤ a ∧ 0xA1 ≤ b then gb2312.cell? (a - 0xA0) (b - 0xA0) else none

def code : ByteCode :=
  { one := asciiChar?, two := fun a b => alone (double? a b) }

end Gb2312

namespace Gbk

/-- The number of a second byte. -/
def trail? (b : Nat) : Option Nat :=
  if 0x40 ≤ b ∧ b ≤ 0x7E then some (b - 0x40)
  else if 0x80 ≤ b ∧ b ≤ 0xFE then some (b - 0x41)
  else none

/-- The number of a cell of the two areas for Han characters: below the rows of GB 2312, and in its
rows before its cells. -/
def hanCell? (a b : Nat) : Option Nat := do
  let t ← trail? b
  if 0x81 ≤ a ∧ a ≤ 0xA0 then some (190 * (a - 0x81) + t)
  else if 0xAA ≤ a ∧ a ≤ 0xFE ∧ t < 96 then some (190 * 32 + 96 * (a - 0xAA) + t)
  else none

/-- The Han characters that GB 2312 has not, in order. -/
def furtherHan : Array Char :=
  unlisted 0x4E00 0x9FA6 gb2312.toList

def double? (a b : Nat) : Option Char :=
  gbkVariants.cell? a b <|> Gb2312.double? a b <|> (hanCell? a b).bind (furtherHan[·]?) <|>
    gbkChars.cell? a b

def code : ByteCode :=
  { one := asciiChar?, two := fun a b => alone (double? a b) }

end Gbk

namespace Gb18030

/-- Three areas of cells are for users: two behind the rows of GB 2312, one before its cells. -/
def userChar? (a b : Nat) : Option Char := do
  let t ← Gbk.trail? b
  if 0xAA ≤ a ∧ a ≤ 0xAF ∧ 96 ≤ t then some (.ofNat (0xE000 + 94 * (a - 0xAA) + (t - 96)))
  else if 0xF8 ≤ a ∧ a ≤ 0xFE ∧ 96 ≤ t then some (.ofNat (0xE234 + 94 * (a - 0xF8) + (t - 96)))
  else if 0xA1 ≤ a ∧ a ≤ 0xA7 ∧ t < 96 then some (.ofNat (0xE4C6 + 96 * (a - 0xA1) + t))
  else none

def double? (a b : Nat) : Option Char :=
  Gbk.double? a b <|> gb18030Chars.cell? a b <|> userChar? a b

/-- The characters of sixteen bits that two bytes stand for. -/
def doubleChars : List Char :=
  (gb2312.toList.filter fun c => c != '・' && c != '―') ++ gbkVariants.toList ++
    gbkChars.toList ++ Gbk.furtherHan.toList ++ gb18030Chars.toList ++
    (List.range' 0xE000 0x766).map Char.ofNat

/-- The characters of sixteen bits that four bytes stand for, in order. -/
def quadrupleChars : Array Char :=
  unlisted 0x80 0x10000 doubleChars

/-- Four bytes count on, each in its range. -/
def number? (a b c d : Nat) : Option Nat :=
  if 0x81 ≤ a ∧ 0x30 ≤ b ∧ b ≤ 0x39 ∧ 0x81 ≤ c ∧ c ≤ 0xFE ∧ 0x30 ≤ d ∧ d ≤ 0x39 then
    some (10 * (126 * (10 * (a - 0x81) + (b - 0x30)) + (c - 0x81)) + (d - 0x30))
  else none

/-- The number of the first character beyond sixteen bits. -/
def firstBeyond : Nat := 189000

def quadruple? (a b c d : Nat) : Option Char := do
  let n ← number? a b c d
  if n < firstBeyond then quadrupleChars[n]?
  else if n - firstBeyond < 0x100000 then some (.ofNat (0x10000 + (n - firstBeyond)))
  else none

def code : ByteCode :=
  { one := asciiChar?
    two := fun a b => alone (double? a b)
    four := fun a b c d => alone (quadruple? a b c d) }

end Gb18030

/-! ## Switched by tildes -/

namespace Hz

/-- A tilde opens and closes the parts in GB 2312; doubled it stands for itself, and a line break
behind it is passed over. -/
def decode? (isChinese : Bool) : List Nat → Option (List Char)
  | [] => some []
  | a :: rest =>
    if a = 0x7E then
      match rest with
      | [] => none
      | b :: rest =>
        if isChinese then
          if b = 0x7D then decode? false rest else none
        else if b = 0x7E then (decode? false rest).map ('~' :: ·)
        else if b = 0x7B then decode? true rest
        else if b = 0x0A then decode? false rest
        else none
    else if isChinese then
      match rest with
      | [] => none
      | b :: rest =>
        (gb2312.cell? (a - 0x20) (b - 0x20)).bind fun c => (decode? true rest).map (c :: ·)
    else (asciiChar? a).bind fun c => (decode? false rest).map (c :: ·)

end Hz

end JavaCensus.Text
