import JavaCensus.Error
import JavaCensus.Number.Literal
import JavaCensus.Toml.Value

/-!
# Environment variables

How the text of a variable becomes a value, by the kind of value that its setting takes.
-/
namespace JavaCensus

/-- Lists and tables cannot be given by a variable. -/
inductive VariableKind where
  | boolean
  | integer
  | real
  | text
  | inexpressible
  deriving DecidableEq, Repr

/-- The words for truth values, in any case. -/
def readBoolean? (written : String) : Option Bool :=
  let word := String.ofList (written.toList.map Char.toLower)
  if word ∈ ["true", "1", "yes", "on"] then some true
  else if word ∈ ["false", "0", "no", "off"] then some false
  else none

/-- Too many digits are told before anything wrong behind them. -/
def readIntegerSetting (written : String) : Except Error Int :=
  let digits := (leadingDigits written).length
  if digitLimit < digits then .error (.mishap (.tooManyDigits digits))
  else
    match readInteger? written with
    | some n => .ok n
    | none =>
      .error (.mishap (.notInteger (.ofList ((Text.quotedChars written.toList).take 200))))

/-- The value that the text of a variable stands for, if it stands for any. -/
def VariableKind.read (kind : VariableKind) (written : String) : Except Error (Option Value) :=
  match kind with
  | boolean =>
    match readBoolean? written with
    | some b => .ok (some (.boolean b))
    | none => .error (.mishap (.notBoolean written))
  | integer => (readIntegerSetting written).map fun n => some (.integer n)
  | real =>
    match readReal? written with
    | some x => .ok (some (.real x))
    | none => .error (.mishap (.notReal (Text.quoted written)))
  | text => .ok (some (.string written))
  | inexpressible => .ok none

end JavaCensus
