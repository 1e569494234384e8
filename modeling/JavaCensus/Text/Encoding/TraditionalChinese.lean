import JavaCensus.Text.Encoding.Big5
import JavaCensus.Text.Encoding.ByteCode
import JavaCensus.Text.Encoding.HongKong

/-!
# Traditional Chinese encodings

Big5, its form that vendors use, and its form with the supplement of Hong Kong.
-/
namespace JavaCensus.Text

inductive Big5Form where
  | plain
  | vendor
  | hongKong
  deriving DecidableEq, Repr

namespace Big5Form

/-- The letters with two marks, which take two characters. -/
def pairs : List (Nat × Nat × String) :=
  [(0x88, 0x62, "Ê\u0304"), (0x88, 0x64, "Ê\u030c"), (0x88, 0xA3, "ê\u0304"),
    (0x88, 0xA5, "ê\u030c")]

def pair? (a b : Nat) : Option (List Char) :=
  (pairs.find? fun (x, y, _) => x == a && y == b).map fun (_, _, text) => text.toList

/-- The cells that the supplement has for itself, where plain Big5 has symbols. -/
def isSupplement (a b : Nat) : Bool :=
  a == 0xC7 || a == 0xC8 || (a == 0xC6 && 0xA1 ≤ b)

def double? (form : Big5Form) (a b : Nat) : Option (List Char) :=
  match form with
  | plain => alone (big5Chars.cell? a b)
  | vendor => alone (big5Vendor.cell? a b <|> big5Chars.cell? a b)
  | hongKong =>
    let supplement := alone (hongKongChars.cell? a b) <|> pair? a b
    if isSupplement a b then supplement else alone (big5Chars.cell? a b) <|> supplement

def code (form : Big5Form) : ByteCode :=
  { one := asciiChar?, two := double? form }

end Big5Form

end JavaCensus.Text
