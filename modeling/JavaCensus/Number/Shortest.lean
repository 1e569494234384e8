import JavaCensus.Number.Real64

/-!
# Shortest decimal text

A finite number is written with the fewest digits that read back as that number, and of those with
the digits nearest to it.
-/
namespace JavaCensus

namespace Magnitude

/-- Four times the value in least units, so that the ends of the interval below are integers. -/
def quarters (x : Magnitude) : Nat := 4 * x.units

/-- Where the values that round to this one begin. Below a power of two they lie closer. -/
def lowEnd (x : Magnitude) : Nat :=
  if x.mantissa = twoTo 52 ∧ 0 < x.exponent then x.quarters - twoTo x.exponent
  else x.quarters - 2 * twoTo x.exponent

def highEnd (x : Magnitude) : Nat :=
  x.quarters + 2 * twoTo x.exponent

/-- Whether a value, in quarters of the least unit with a denominator, rounds to this one. -/
def roundsHere (x : Magnitude) (num den : Nat) : Bool :=
  if x.mantissa % 2 = 0 then x.lowEnd * den ≤ num && num ≤ x.highEnd * den
  else x.lowEnd * den < num && num < x.highEnd * den

/-- The quarters of the least unit in one, times a power of ten given as numerator and
denominator. -/
structure Grid where
  num : Nat
  den : Nat

/-- The grid of the multiples of `10 ^ k`. -/
def Grid.ofExponent (k : Int) : Grid :=
  if 0 ≤ k then ⟨4 * unitsOfOne * tenTo k.toNat, 1⟩ else ⟨4 * unitsOfOne, tenTo (-k).toNat⟩

/-- The distance of two numbers. -/
def gap (a b : Nat) : Nat := (a - b) + (b - a)

/-- Which of the two multiples of `10 ^ k` around the value reads back, the nearer if both do. -/
def onGrid? (x : Magnitude) (k : Int) : Option Nat :=
  let grid := Grid.ofExponent k
  let low := x.quarters * grid.den / grid.num
  let reads (n : Nat) : Bool := x.roundsHere (n * grid.num) grid.den
  let away (n : Nat) : Nat := gap (n * grid.num) (x.quarters * grid.den)
  match reads low, reads (low + 1) with
  | true, false => some low
  | false, true => some (low + 1)
  | false, false => none
  | true, true =>
    if away low < away (low + 1) ∨ (away low = away (low + 1) ∧ low % 2 = 0) then some low
    else some (low + 1)

/-- The least `p` with the value below `10 ^ p`. -/
def decimalPoint (x : Magnitude) : Int :=
  let exponents := (List.range 700).map fun i : Nat => (i : Int) - 340
  (exponents.find? fun p =>
    let grid := Grid.ofExponent p
    x.quarters * grid.den < grid.num).getD 0

/-- Digits `n` stand for `n * 10 ^ exponent`. -/
structure Decimal where
  digits : Nat
  exponent : Int
  deriving DecidableEq, Repr

/-- The shortest decimal that reads back as the value. -/
def shortest (x : Magnitude) : Decimal :=
  let point := x.decimalPoint
  let found := (List.range 17).findSome? fun i =>
    let k := point - (i + 1 : Nat)
    (x.onGrid? k).map fun n => ⟨n, k⟩
  found.getD ⟨x.units, 0⟩

end Magnitude

/-- Trailing zeros of the digits go over to the exponent. -/
def dropZeros : Nat → Nat → Int → List Char × Int
  | 0, n, k => (Nat.toDigits 10 n, k)
  | fuel + 1, n, k =>
    if n ≠ 0 ∧ n % 10 = 0 then dropZeros fuel (n / 10) (k + 1) else (Nat.toDigits 10 n, k)

/-- An exponent with its sign and at least two digits. -/
def exponentText (e : Int) : List Char :=
  let digits := Nat.toDigits 10 e.natAbs
  (if e < 0 then '-' else '+') :: List.replicate (2 - digits.length) '0' ++ digits

/-- Digits with the decimal point after the first `point` of them. Numbers from a ten-thousandth
to below `10 ^ 16` are written positionally, with at least one place on each side of the point. -/
def decimalText (digits : List Char) (point : Int) : List Char :=
  if -4 < point ∧ point ≤ 0 then
    '0' :: '.' :: List.replicate (-point).toNat '0' ++ digits
  else if 0 < point ∧ point ≤ 16 then
    let whole := digits.take point.toNat
    let rest := digits.drop point.toNat
    whole ++ List.replicate (point.toNat - digits.length) '0' ++ '.' ::
      (if rest.isEmpty then ['0'] else rest)
  else
    let rest := digits.drop 1
    digits.take 1 ++ (if rest.isEmpty then [] else '.' :: rest) ++ 'e' :: exponentText (point - 1)

def Magnitude.text (x : Magnitude) : String :=
  if x.mantissa = 0 then "0.0"
  else
    let decimal := x.shortest
    let (digits, exponent) := dropZeros 20 decimal.digits decimal.exponent
    .ofList (decimalText digits (exponent + digits.length))

def Real64.text : Real64 → String
  | .nan => "nan"
  | .infinite negative => if negative then "-inf" else "inf"
  | .finite negative x => if negative then "-" ++ x.text else x.text

end JavaCensus
