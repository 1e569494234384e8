/-!
# Escaped text

Latin text in which a backslash opens an escape. In the raw form only the escapes of code points
count. The result is in code points, as an escape may name half of a pair.
-/
namespace JavaCensus.Text.Escaped

def hexDigit? (b : Nat) : Option Nat :=
  if 0x30 ≤ b ∧ b ≤ 0x39 then some (b - 0x30)
  else if 0x41 ≤ b ∧ b ≤ 0x46 then some (b - 0x37)
  else if 0x61 ≤ b ∧ b ≤ 0x66 then some (b - 0x57)
  else none

/-- Reads exactly so many hexadecimal digits. -/
def readHex? : Nat → Nat → List Nat → Option (Nat × List Nat)
  | 0, n, rest => some (n, rest)
  | _ + 1, _, [] => none
  | width + 1, n, b :: rest => (hexDigit? b).bind fun d => readHex? width (16 * n + d) rest

/-- Reads up to so many octal digits. -/
def readOctal : Nat → Nat → List Nat → Nat × List Nat
  | 0, n, rest => (n, rest)
  | _ + 1, n, [] => (n, [])
  | width + 1, n, b :: rest =>
    if 0x30 ≤ b ∧ b ≤ 0x37 then readOctal width (8 * n + (b - 0x30)) rest else (n, b :: rest)

/-- Reads a code point of a given width. -/
def readPoint? (width : Nat) (rest : List Nat) : Option (List Nat × List Nat) := do
  let (n, rest) ← readHex? width 0 rest
  if n < 0x110000 then some ([n], rest) else none

/-- The control characters, quotes and the backslash that one letter escapes. -/
def simple? (b : Nat) : Option Nat :=
  match Char.ofNat b with
  | '\\' => some 0x5C
  | '\'' => some 0x27
  | '"' => some 0x22
  | 'a' => some 7
  | 'b' => some 8
  | 't' => some 9
  | 'n' => some 10
  | 'v' => some 11
  | 'f' => some 12
  | 'r' => some 13
  | _ => none

/-- What an escape stands for, and what follows it. An escaped line break stands for nothing, and
what is no escape stays with its backslash. -/
def readEscape? (b : Nat) (rest : List Nat) : Option (List Nat × List Nat) :=
  match Char.ofNat b with
  | '\n' => some ([], rest)
  | 'x' => readPoint? 2 rest
  | 'u' => readPoint? 4 rest
  | 'U' => readPoint? 8 rest
  | 'N' => none
  | _ =>
    match simple? b with
    | some n => some ([n], rest)
    | none =>
      if 0x30 ≤ b ∧ b ≤ 0x37 then
        let (n, rest) := readOctal 2 (b - 0x30) rest
        some ([n], rest)
      else some ([0x5C, b], rest)

def readRawEscape? (b : Nat) (rest : List Nat) : Option (List Nat × List Nat) :=
  match Char.ofNat b with
  | 'u' => readPoint? 4 rest
  | 'U' => readPoint? 8 rest
  | _ => some ([0x5C, b], rest)

/-- Reads a text; the fuel bounds the steps. A raw text may end with a backslash. -/
def decodeFrom? (isRaw : Bool) : Nat → List Nat → Option (List Nat)
  | _, [] => some []
  | 0, _ => none
  | fuel + 1, a :: rest =>
    if a = 0x5C then
      match rest with
      | [] => if isRaw then some [a] else none
      | b :: rest => do
        let (points, rest) ← if isRaw then readRawEscape? b rest else readEscape? b rest
        (decodeFrom? isRaw fuel rest).map (points ++ ·)
    else (decodeFrom? isRaw fuel rest).map (a :: ·)

def decode? (isRaw : Bool) (bytes : List Nat) : Option (List Nat) :=
  decodeFrom? isRaw (bytes.length + 1) bytes

end JavaCensus.Text.Escaped
