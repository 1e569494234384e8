import JavaCensus.Text.Encoding.Escaped
import JavaCensus.Text.Encoding.Names
import JavaCensus.Text.Encoding.Punycode
import JavaCensus.Text.Encoding.Switching
import JavaCensus.Text.Encoding.TraditionalChinese
import JavaCensus.Text.Encoding.Utf7
import JavaCensus.Text.Encoding.WholePages
import JavaCensus.Text.Utf8

/-!
# Encodings

Encodings by name, and decoding by them.
-/
namespace JavaCensus.Text

inductive ByteOrder where
  | little
  | big
  deriving DecidableEq, Repr

/-- Without an order, the text has to start with a mark that tells it. A page gives the characters
of all bytes. -/
inductive Encoding where
  | utf7
  | utf8
  | utf8Marked
  | utf16 (order : Option ByteOrder)
  | utf32 (order : Option ByteOrder)
  | page (chars : String)
  | grouped (code : ByteCode)
  | eucKorean
  | hz
  | switching (code : Switching.Code)
  | escaped (isRaw : Bool)
  | punycode

/-- Why bytes are no text of an encoding: they do not fit it, they do not tell what is needed to
read them, or the text would hold half of a pair. -/
inductive DecodeFault where
  | malformed
  | unreadable
  | halved
  deriving DecidableEq, Repr

abbrev Decoded := Except DecodeFault (List Char)

namespace Encoding

/-! ## Names -/

/-- Whether a character parts the words of a name: all but ASCII letters, digits and points. -/
def isBreak (c : Char) : Bool :=
  !c.isAlphanum && c != '.'

/-- The words of a name in lower case, joined by single underscores. -/
def nameKey : List Char → List Char
  | [] => []
  | c :: cs =>
    let key := nameKey cs
    if isBreak c then
      match cs with
      | d :: _ => if isBreak d || key.isEmpty then key else '_' :: key
      | [] => []
    else c.toLower :: key

def plainKey (name : String) : String :=
  .ofList ((nameKey name.toList).dropWhile (· == '_'))

/-- The main name of an encoding. A further name may have points for underscores. -/
def mainName? (name : String) : Option String :=
  let key := plainKey name
  let dotless := String.ofList (key.toList.map fun c => if c = '.' then '_' else c)
  match encodingNames.find? fun (_, others) => others.contains key || others.contains dotless with
  | some (main, _) => some main
  | none => (encodingNames.find? fun (main, _) => main == key).map (·.1)

/-- The page of a name. A name without a page of its own reads ASCII. -/
def pageNamed (name : String) : Encoding :=
  let ascii : String := .ofList ((List.range 0x80).map Char.ofNat)
  match wholePages.find? (·.1 == name) with
  | some (_, chars) => .page chars
  | none => .page (ascii ++ ((codePages.find? (·.1 == name)).map (·.2)).getD "")

def ofMainName (name : String) : Encoding :=
  match name with
  | "utf_7" => .utf7
  | "utf_8" => .utf8
  | "utf_8_sig" => .utf8Marked
  | "utf_16" => .utf16 none
  | "utf_16_le" => .utf16 (some .little)
  | "utf_16_be" => .utf16 (some .big)
  | "utf_32" => .utf32 none
  | "utf_32_le" => .utf32 (some .little)
  | "utf_32_be" => .utf32 (some .big)
  | "shift_jis" => .grouped (ShiftJis.code .basic)
  | "cp932" => .grouped (ShiftJis.code .vendor)
  | "shift_jisx0213" => .grouped (ShiftJis.code .extended)
  | "shift_jis_2004" => .grouped (ShiftJis.code .revised)
  | "euc_jp" => .grouped (EucJapanese.code .basic)
  | "euc_jisx0213" => .grouped (EucJapanese.code .extended)
  | "euc_jis_2004" => .grouped (EucJapanese.code .revised)
  | "iso2022_jp" => .switching .japanese
  | "iso2022_jp_1" => .switching .japanese1
  | "iso2022_jp_2" => .switching .japanese2
  | "iso2022_jp_3" => .switching .japanese3
  | "iso2022_jp_2004" => .switching .japanese2004
  | "iso2022_jp_ext" => .switching .japaneseExtended
  | "euc_kr" => .eucKorean
  | "cp949" => .grouped UnifiedHangul.code
  | "johab" => .grouped Johab.code
  | "iso2022_kr" => .switching .korean
  | "gb2312" => .grouped Gb2312.code
  | "gbk" => .grouped Gbk.code
  | "gb18030" => .grouped Gb18030.code
  | "hz" => .hz
  | "big5" => .grouped (Big5Form.code .plain)
  | "cp950" => .grouped (Big5Form.code .vendor)
  | "big5hkscs" => .grouped (Big5Form.code .hongKong)
  | "unicode_escape" => .escaped false
  | "raw_unicode_escape" => .escaped true
  | "punycode" => .punycode
  | "latin_1" => pageNamed "iso8859_1"
  | _ => pageNamed name

def ofName? (name : String) : Option Encoding :=
  (mainName? name).map ofMainName

/-! ## Decoding -/

/-- Cuts bytes into words of two. -/
def words16? (order : ByteOrder) : List UInt8 → Option (List Nat)
  | [] => some []
  | [_] => none
  | a :: b :: rest =>
    let word := match order with
      | .little => a.toNat + 256 * b.toNat
      | .big => 256 * a.toNat + b.toNat
    (words16? order rest).map (word :: ·)

/-- Cuts bytes into words of four. -/
def words32? (order : ByteOrder) : List UInt8 → Option (List Nat)
  | [] => some []
  | a :: b :: c :: d :: rest =>
    let word := match order with
      | .little => a.toNat + 256 * (b.toNat + 256 * (c.toNat + 256 * d.toNat))
      | .big => 256 * (256 * (256 * a.toNat + b.toNat) + c.toNat) + d.toNat
    (words32? order rest).map (word :: ·)
  | _ => none

/-- Pairs up the halves of characters beyond sixteen bits. -/
def chars16? : List Nat → Option (List Char)
  | [] => some []
  | w :: rest =>
    if 0xD800 ≤ w ∧ w < 0xDC00 then
      match rest with
      | v :: rest =>
        if 0xDC00 ≤ v ∧ v < 0xE000 then
          (chars16? rest).map (Char.ofNat (0x10000 + (w - 0xD800) * 0x400 + (v - 0xDC00)) :: ·)
        else none
      | [] => none
    else if 0xDC00 ≤ w ∧ w < 0xE000 then none
    else (chars16? rest).map (Char.ofNat w :: ·)

def chars32? (words : List Nat) : Option (List Char) :=
  words.mapM fun w => if h : w.isValidChar then some (.ofNatAux w h) else none

def orMalformed (text : Option (List Char)) : Decoded :=
  match text with
  | some cs => .ok cs
  | none => .error .malformed

def decode16 (order : ByteOrder) (bytes : List UInt8) : Decoded :=
  orMalformed ((words16? order bytes).bind chars16?)

def decode32 (order : ByteOrder) (bytes : List UInt8) : Decoded :=
  orMalformed ((words32? order bytes).bind chars32?)

/-- Refuses a text that has no mark, unless it is empty. -/
def unmarked (text : Decoded) : Decoded := do
  if (← text).isEmpty then return [] else throw .unreadable

def decodeMarked16 : List UInt8 → Decoded
  | 0xFF :: 0xFE :: bytes => decode16 .little bytes
  | 0xFE :: 0xFF :: bytes => decode16 .big bytes
  | bytes => unmarked (decode16 .little bytes)

def decodeMarked32 : List UInt8 → Decoded
  | 0xFF :: 0xFE :: 0 :: 0 :: bytes => decode32 .little bytes
  | 0 :: 0 :: 0xFE :: 0xFF :: bytes => decode32 .big bytes
  | bytes => unmarked (decode32 .little bytes)

/-- A text that ends inside its mark holds nothing. -/
def dropMark : List UInt8 → List UInt8
  | [0xEF] => []
  | [0xEF, 0xBB] => []
  | 0xEF :: 0xBB :: 0xBF :: bytes => bytes
  | bytes => bytes

/-- The character of a byte on a code page. -/
def pageChar? (chars : Array Char) (b : Nat) : Option Char :=
  (chars[b]?).filter (· != '\uFFFF')

/-- The characters of code points. -/
def ofPoints (points : List Nat) : Decoded :=
  match chars32? points with
  | some cs => .ok cs
  | none => .error .halved

def orMalformedPoints (points : Option (List Nat)) : Decoded :=
  match points with
  | some ns => ofPoints ns
  | none => .error .malformed

def decodePunycode (bytes : List Nat) : Decoded :=
  match Punycode.decode bytes with
  | .ok points => ofPoints points
  | .error .notAscii => .error .malformed
  | .error .astray => .error .unreadable

def decode (e : Encoding) (bytes : List UInt8) : Decoded :=
  let numbers := bytes.map UInt8.toNat
  match e with
  | .utf7 => orMalformedPoints (Utf7.decode? none numbers)
  | .utf8 => orMalformed (Utf8.decode? bytes)
  | .utf8Marked => orMalformed (Utf8.decode? (dropMark bytes))
  | .utf16 none => decodeMarked16 bytes
  | .utf16 (some order) => decode16 order bytes
  | .utf32 none => decodeMarked32 bytes
  | .utf32 (some order) => decode32 order bytes
  | .page chars =>
    let chars := chars.toList.toArray
    orMalformed (numbers.mapM (pageChar? chars))
  | .grouped code => orMalformed (code.decode? numbers)
  | .eucKorean => orMalformed (EucKorean.decode? numbers)
  | .hz => orMalformed (Hz.decode? false numbers)
  | .switching code => orMalformed (code.decode? numbers)
  | .escaped isRaw => orMalformedPoints (Escaped.decode? isRaw numbers)
  | .punycode => decodePunycode numbers

end Encoding

end JavaCensus.Text
