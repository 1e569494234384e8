import JavaCensus.Error
import JavaCensus.Toml.Value

/-!
# Quantities

The values that count as numbers: integers, real numbers and truth values, which count as zero and
one.
-/
namespace JavaCensus

inductive Quantity where
  | boolean (b : Bool)
  | integer (n : Int)
  | real (x : Real64)
  deriving DecidableEq, Repr

namespace Quantity

def ofValue? : Value → Option Quantity
  | .boolean b => some (.boolean b)
  | .integer n => some (.integer n)
  | .real x => some (.real x)
  | _ => none

def toValue : Quantity → Value
  | .boolean b => .boolean b
  | .integer n => .integer n
  | .real x => .real x

theorem ofValue?_toValue (q : Quantity) : ofValue? q.toValue = some q := by
  cases q <;> rfl

def text (q : Quantity) : String :=
  q.toValue.text

/-- How a quantity compares to an integer. -/
def compareInt? : Quantity → Int → Option Ordering
  | .boolean b, n => some (compare (if b then 1 else 0) n)
  | .integer m, n => some (compare m n)
  | .real x, n => x.compareInt? n

def atLeast (q : Quantity) (n : Int) : Bool :=
  q.compareInt? n = some .gt || q.compareInt? n = some .eq

def atMost (q : Quantity) (n : Int) : Bool :=
  q.compareInt? n = some .lt || q.compareInt? n = some .eq

/-- The integer that a quantity is equal to, if there is one. -/
def toInt? : Quantity → Option Int
  | .boolean b => some (if b then 1 else 0)
  | .integer n => some n
  | .real x => x.toInt?

/-- The bytes in so many megabytes, fractions of a byte dropped. -/
def bytes : Quantity → Except Error Int
  | .boolean b => .ok (if b then 1048576 else 0)
  | .integer n => .ok (n * 1048576)
  | .real .nan => .error (.mishap .nanToInteger)
  | .real (.infinite _) => .error (.mishap .infiniteToInteger)
  | .real (.finite negative m) =>
    let units := m.units * 1048576
    if twoTo 1024 * Magnitude.unitsOfOne ≤ units then .error (.mishap .infiniteToInteger)
    else
      let whole : Int := units / Magnitude.unitsOfOne
      .ok (if negative then -whole else whole)

end Quantity

/-- The language level of a number. -/
def LanguageLevel.ofQuantity (q : Quantity) : Except Error LanguageLevel :=
  match q.toInt?.bind fun n => if 0 ≤ n then ofRelease? n.toNat else none with
  | some level => .ok level
  | none => .error (.unsupportedLevel q.text)

end JavaCensus
