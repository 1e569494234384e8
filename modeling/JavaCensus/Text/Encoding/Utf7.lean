/-!
# UTF-7

ASCII text in which parts between a plus sign and the end of a run of base 64 hold UTF-16. The
result is in code points, as halves of a pair may stand alone.
-/
namespace JavaCensus.Text.Utf7

/-- The value of a base 64 digit. -/
def base64? (b : Nat) : Option Nat :=
  if 0x41 ≤ b ∧ b ≤ 0x5A then some (b - 0x41)
  else if 0x61 ≤ b ∧ b ≤ 0x7A then some (b - 0x61 + 26)
  else if 0x30 ≤ b ∧ b ≤ 0x39 then some (b - 0x30 + 52)
  else if b = 0x2B then some 62
  else if b = 0x2F then some 63
  else none

/-- A part in base 64: whether it has no digit yet, the bits that make no unit yet, how many they
are, and the first half of a pair that waits for the second. -/
structure Part where
  isFresh : Bool := true
  buffer : Nat := 0
  bits : Nat := 0
  half : Option Nat := none

namespace Part

def isHigh (u : Nat) : Bool := 0xD800 ≤ u && u < 0xDC00

def isLow (u : Nat) : Bool := 0xDC00 ≤ u && u < 0xE000

/-- Takes a unit of sixteen bits. -/
def takeUnit (half : Option Nat) (u : Nat) : Option Nat × List Nat :=
  match half with
  | some h =>
    if isLow u then (none, [0x10000 + 0x400 * (h - 0xD800) + (u - 0xDC00)])
    else if isHigh u then (some u, [h])
    else (none, [h, u])
  | none => if isHigh u then (some u, []) else (none, [u])

/-- Takes a digit. -/
def takeDigit (p : Part) (d : Nat) : Part × List Nat :=
  let buffer := 64 * p.buffer + d
  let bits := p.bits + 6
  if 16 ≤ bits then
    let left := bits - 16
    let (half, points) := takeUnit p.half (buffer / Nat.pow 2 left)
    (⟨false, buffer % Nat.pow 2 left, left, half⟩, points)
  else (⟨false, buffer, bits, p.half⟩, [])

/-- Whether nothing but padding is left over. -/
def isPadded (p : Part) : Bool :=
  p.bits < 6 && p.buffer == 0

end Part

/-- Reads a text, in a part of base 64 or outside. A minus sign ends a part, or spells a plus sign
right behind one. A text may end in a part, but not in a pair. -/
def decode? : Option Part → List Nat → Option (List Nat)
  | none, [] => some []
  | some p, [] => if p.isPadded && p.half.isNone then some [] else none
  | none, a :: rest =>
    if a = 0x2B then decode? (some {}) rest
    else if a < 0x80 then (decode? none rest).map (a :: ·)
    else none
  | some p, a :: rest =>
    match base64? a with
    | some d =>
      let (p, points) := p.takeDigit d
      (decode? (some p) rest).map (points ++ ·)
    | none =>
      if !p.isPadded || 0x80 ≤ a then none
      else if a = 0x2D then
        (decode? none rest).map ((if p.isFresh then [0x2B] else p.half.toList) ++ ·)
      else if p.isFresh then none
      else (decode? none rest).map ((p.half.toList ++ [a]) ++ ·)

end JavaCensus.Text.Utf7
