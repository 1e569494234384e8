import JavaCensus.Number.Power

/-!
# Binary floating-point numbers

Numbers of 64 bits as exact values: a magnitude is `mantissa * 2 ^ (exponent - 1074)`. Each value
is written in one way only, so equality of values is equality.
-/
namespace JavaCensus

/-- A finite magnitude. The mantissa fills its 53 bits unless the exponent is the least one. -/
structure Magnitude where
  mantissa : Nat
  exponent : Nat
  canonical : mantissa < twoTo 53 ∧ exponent ≤ 2045 ∧ (twoTo 52 ≤ mantissa ∨ exponent = 0)
  deriving DecidableEq, Repr

namespace Magnitude

def zero : Magnitude := ⟨0, 0, by decide⟩

/-- The magnitude of the given parts, if they are one. -/
def ofParts? (mantissa exponent : Nat) : Option Magnitude :=
  if h : mantissa < twoTo 53 ∧ exponent ≤ 2045 ∧ (twoTo 52 ≤ mantissa ∨ exponent = 0) then
    some ⟨mantissa, exponent, h⟩
  else none

/-- How often the value holds the least positive one. -/
def units (x : Magnitude) : Nat := x.mantissa * twoTo x.exponent

/-- How often one holds the least positive value. -/
def unitsOfOne : Nat := twoTo 1074

/-- The quotient rounded to the nearest integer, a tie to the even one. -/
def roundHalfEven (num den : Nat) : Nat :=
  let q := num / den
  let r := num % den
  if 2 * r < den ∨ (2 * r = den ∧ q % 2 = 0) then q else q + 1

/-- The magnitude nearest to a quotient, a tie to the even mantissa; there is none beyond the
greatest one. -/
def ofRatio? (num den : Nat) : Option Magnitude :=
  let scaled := num * unitsOfOne
  let exponent := Nat.log2 (scaled / den) + 1 - 53
  let mantissa := roundHalfEven scaled (den * twoTo exponent)
  if mantissa = twoTo 53 then ofParts? (twoTo 52) (exponent + 1) else ofParts? mantissa exponent

end Magnitude

inductive Real64 where
  | nan
  | infinite (negative : Bool)
  | finite (negative : Bool) (magnitude : Magnitude)
  deriving DecidableEq, Repr

namespace Real64

def zero : Real64 := .finite false .zero

/-- The number nearest to a quotient; beyond the greatest finite number it is infinite. -/
def ofRatio (negative : Bool) (num den : Nat) : Real64 :=
  match Magnitude.ofRatio? num den with
  | some x => .finite negative x
  | none => .infinite negative

/-- The number of decimal digits, one for zero. -/
def digitCount (n : Nat) : Nat := (Nat.toDigits 10 n).length

/-- The number nearest to `digits * 10 ^ exponent`. Far out of range the power is not computed. -/
def ofDecimal (negative : Bool) (digits : Nat) (exponent : Int) : Real64 :=
  if digits = 0 then .finite negative .zero
  else if exponent + digitCount digits > 400 then .infinite negative
  else if exponent + digitCount digits < -400 then .finite negative .zero
  else if 0 ≤ exponent then ofRatio negative (digits * tenTo exponent.toNat) 1
  else ofRatio negative digits (tenTo (-exponent).toNat)

/-- The signed multiple of the least positive number that a finite number is. -/
def signedUnits (negative : Bool) (x : Magnitude) : Int :=
  if negative then -(x.units : Int) else x.units

/-- How a number compares to an integer; not a number compares to none. -/
def compareInt? (x : Real64) (n : Int) : Option Ordering :=
  match x with
  | .nan => none
  | .infinite negative => some (if negative then .lt else .gt)
  | .finite negative m => some (compare (signedUnits negative m) (n * Magnitude.unitsOfOne))

/-- The integer that a number is equal to, if there is one. -/
def toInt? : Real64 → Option Int
  | .finite negative m =>
    let units := signedUnits negative m
    if units % Magnitude.unitsOfOne = 0 then some (units / Magnitude.unitsOfOne) else none
  | _ => none

end Real64

end JavaCensus
