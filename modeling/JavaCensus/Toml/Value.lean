import JavaCensus.Calendar
import JavaCensus.Error
import JavaCensus.Number.Literal
import JavaCensus.Number.Shortest
import JavaCensus.Text.Quoted

/-!
# Values of settings

The values that settings can be given, and how messages write them: a text stands as it is on its
own and is quoted within an array or a table.
-/
namespace JavaCensus

/-- The distance of a moment to universal time, in minutes. -/
abbrev ZoneOffset := Int

/-- A table keeps its keys in the order in which they came. -/
inductive Value where
  | nothing
  | boolean (b : Bool)
  | integer (n : Int)
  | real (x : Real64)
  | string (s : String)
  | date (d : Date)
  | time (t : TimeOfDay)
  | moment (m : Moment) (offset : Option ZoneOffset)
  | array (elements : List Value)
  | table (entries : List (String × Value))

namespace Value

def booleanText (b : Bool) : String :=
  if b then "True" else "False"

def listed (ns : List Nat) : String :=
  ", ".intercalate (ns.map toString)

/-- The parts of a time; seconds and their fractions only as far as they are not zero. -/
def timeParts (t : TimeOfDay) : List Nat :=
  [t.hour, t.minute] ++
    (if t.microsecond ≠ 0 then [t.second, t.microsecond]
      else if t.second ≠ 0 then [t.second] else [])

def dateParts (d : Date) : List Nat := [d.year, d.month, d.day]

/-- An offset as it follows a moment. -/
def offsetText (offset : ZoneOffset) : String :=
  let minutes := offset.natAbs
  (if offset < 0 then "-" else "+") ++ padded 2 (minutes / 60) ++ ":" ++ padded 2 (minutes % 60)

/-- An offset in a quoted moment; a negative one counts on from a full day back. -/
def zoneQuoted (offset : ZoneOffset) : String :=
  if offset = 0 then "datetime.timezone.utc"
  else if 0 < offset then
    "datetime.timezone(datetime.timedelta(seconds=" ++ toString (60 * offset) ++ "))"
  else
    "datetime.timezone(datetime.timedelta(days=-1, seconds=" ++
      toString (86400 + 60 * offset) ++ "))"

def momentQuoted (m : Moment) (offset : Option ZoneOffset) : String :=
  "datetime.datetime(" ++ listed (dateParts m.date ++ timeParts m.time) ++
    ((offset.map fun o => ", tzinfo=" ++ zoneQuoted o).getD "") ++ ")"

mutual

/-- How a value is written within another. -/
def quoted : Value → String
  | nothing => "None"
  | boolean b => booleanText b
  | integer n => toString n
  | real x => x.text
  | string s => Text.quoted s
  | date d => "datetime.date(" ++ listed (dateParts d) ++ ")"
  | time t => "datetime.time(" ++ listed (timeParts t) ++ ")"
  | moment m offset => momentQuoted m offset
  | array elements => "[" ++ ", ".intercalate (quotedAll elements) ++ "]"
  | table entries => "\x7b" ++ ", ".intercalate (quotedEntries entries) ++ "\x7d"

def quotedAll : List Value → List String
  | [] => []
  | v :: vs => quoted v :: quotedAll vs

def quotedEntries : List (String × Value) → List String
  | [] => []
  | (key, v) :: entries => (Text.quoted key ++ ": " ++ quoted v) :: quotedEntries entries

end

mutual

/-- Whether no integer in a value has too many digits to be written. -/
def isWritable : Value → Bool
  | integer n => n.natAbs < tenTo digitLimit
  | array elements => areWritable elements
  | table entries => entriesAreWritable entries
  | _ => true

def areWritable : List Value → Bool
  | [] => true
  | v :: vs => isWritable v && areWritable vs

def entriesAreWritable : List (String × Value) → Bool
  | [] => true
  | (_, v) :: entries => isWritable v && entriesAreWritable entries

end

/-- How a value is written on its own. -/
def text : Value → String
  | string s => s
  | date d => d.text
  | time t => t.text
  | moment m offset =>
    m.date.text ++ " " ++ m.time.text ++ ((offset.map offsetText).getD "")
  | v => v.quoted

/-- Writes a value whose integers are not too long for it. -/
def write (v : Value) : Except Error String :=
  if v.isWritable then .ok v.text else .error (.mishap .tooLongToWrite)

/-- Whether a value counts as yes: all but nothing, false, zero and what is empty. -/
def isTruthy : Value → Bool
  | nothing => false
  | boolean b => b
  | integer n => n ≠ 0
  | real x => x.compareInt? 0 ≠ some .eq
  | string s => s ≠ ""
  | date _ | time _ | moment _ _ => true
  | array elements => !elements.isEmpty
  | table entries => !entries.isEmpty

end Value

end JavaCensus
