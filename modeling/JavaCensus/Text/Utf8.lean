/-!
# UTF-8

Decoding works byte by byte. Where the bytes stop being the start of a character, the part read so
far is one fault, and the byte at hand starts anew.
-/
namespace JavaCensus.Text.Utf8

/-- What the decoder waits for: a new character, or `more` further bytes of one, the next of which
lies between `low` and `high`. -/
inductive State where
  | start
  | within (read more : Nat) (low high : Nat)
  deriving DecidableEq, Repr

/-- A byte at the start of a character. -/
def startByte (b : UInt8) : List (Option Char) × State :=
  let n := b.toNat
  if n < 0x80 then ([some (Char.ofNat n)], .start)
  else if n < 0xC2 then ([none], .start)
  else if n < 0xE0 then ([], .within (n - 0xC0) 1 0x80 0xBF)
  else if n = 0xE0 then ([], .within 0 2 0xA0 0xBF)
  else if n = 0xED then ([], .within 0xD 2 0x80 0x9F)
  else if n < 0xF0 then ([], .within (n - 0xE0) 2 0x80 0xBF)
  else if n = 0xF0 then ([], .within 0 3 0x90 0xBF)
  else if n < 0xF4 then ([], .within (n - 0xF0) 3 0x80 0xBF)
  else if n = 0xF4 then ([], .within 4 3 0x80 0x8F)
  else ([none], .start)

/-- The characters of a text, with `none` for each fault. -/
def scan : State → List UInt8 → List (Option Char)
  | .start, [] => []
  | .within .., [] => [none]
  | .start, b :: bs =>
    let (chars, next) := startByte b
    chars ++ scan next bs
  | .within read more low high, b :: bs =>
    let n := b.toNat
    if low ≤ n ∧ n ≤ high then
      let read := read * 64 + (n - 0x80)
      if more ≤ 1 then some (Char.ofNat read) :: scan .start bs
      else scan (.within read (more - 1) 0x80 0xBF) bs
    else
      let (chars, next) := startByte b
      none :: chars ++ scan next bs

/-- Decodes with a replacement character for each fault. -/
def decodeLossy (bytes : List UInt8) : List Char :=
  (scan .start bytes).map (·.getD '\uFFFD')

/-- Decodes a text without faults. -/
def decode? (bytes : List UInt8) : Option (List Char) :=
  (scan .start bytes).mapM id

def encode (cs : List Char) : List UInt8 :=
  cs.flatMap String.utf8EncodeChar

end JavaCensus.Text.Utf8
