/-!
# Punycode

Text of any script in ASCII letters and digits: the ASCII characters first, and behind the last
hyphen where the others go in, in rising order. The result is in code points, as any number up to
the last code point can be named.
-/
namespace JavaCensus.Text.Punycode

/-- The value of a digit: the letters in any case, then the digits. -/
def digit? (b : Nat) : Option Nat :=
  if 0x61 ≤ b ∧ b ≤ 0x7A then some (b - 0x61)
  else if 0x41 ≤ b ∧ b ≤ 0x5A then some (b - 0x41)
  else if 0x30 ≤ b ∧ b ≤ 0x39 then some (b - 0x30 + 26)
  else none

/-- The least value that a digit at a place has to have to go on. -/
def threshold (place bias : Nat) : Nat :=
  max 1 (min 26 (36 * (place + 1) - bias))

/-- Reads a number of digits of rising weight. -/
def readNumber? (bias : Nat) : (place weight sum : Nat) → List Nat → Option (Nat × List Nat)
  | _, _, _, [] => none
  | place, weight, sum, b :: rest =>
    (digit? b).bind fun d =>
      let t := threshold place bias
      if d < t then some (sum + d * weight, rest)
      else readNumber? bias (place + 1) (weight * (36 - t)) (sum + d * weight) rest

/-- Divides a number by thirty-five until it is at most 455, and counts; the fuel bounds the
steps. -/
def settle : Nat → Nat → Nat × Nat
  | 0, delta => (0, delta)
  | fuel + 1, delta =>
    if delta ≤ 455 then (0, delta)
    else
      let (steps, left) := settle fuel (delta / 35)
      (steps + 1, left)

/-- The bias behind a number. -/
def adapt (delta : Nat) (isFirst : Bool) (length : Nat) : Nat :=
  let delta := if isFirst then delta / 700 else delta / 2
  let delta := delta + delta / length
  let (steps, left) := settle delta delta
  36 * steps + 36 * left / (left + 38)

/-- Why a text cannot be read: its bytes are not ASCII, or its numbers lead nowhere. -/
inductive Fault where
  | notAscii
  | astray
  deriving DecidableEq, Repr

/-- Where the next character goes in: the code point and the position of the last one. -/
structure Cursor where
  point : Nat
  next : Nat
  bias : Nat

/-- Inserts the characters that numbers name; the fuel bounds their count. -/
def insertAll : Nat → Bool → Cursor → List Nat → List Nat → Except Fault (List Nat)
  | _, _, _, text, [] => .ok text
  | 0, _, _, _, _ => .error .astray
  | fuel + 1, isFirst, c, text, digits =>
    match readNumber? c.bias 0 1 0 digits with
    | none => .error .astray
    | some (delta, rest) =>
      let length := text.length + 1
      let place := c.next + delta
      let point := c.point + place / length
      if 0x10FFFF < point then .error .astray
      else
        let at' := place % length
        insertAll fuel false ⟨point, at' + 1, adapt delta isFirst length⟩
          (text.take at' ++ point :: text.drop at') rest

/-- Cuts a text at its last hyphen; without one all of it are digits. -/
def cut (bytes : List Nat) : List Nat × List Nat :=
  let digits := (bytes.reverse.takeWhile (· != 0x2D)).reverse
  (bytes.take (bytes.length - digits.length - 1), digits)

def decode (bytes : List Nat) : Except Fault (List Nat) :=
  if bytes.any (0x80 ≤ ·) then .error .notAscii
  else
    let (text, digits) := cut bytes
    insertAll digits.length true ⟨0x80, 0, 72⟩ text digits

end JavaCensus.Text.Punycode
