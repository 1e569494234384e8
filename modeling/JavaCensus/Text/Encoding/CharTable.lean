/-!
# Character tables

Characters that are found by two numbers, the row and the cell.
-/
namespace JavaCensus.Text

/-- Characters of neighbouring cells; U+FFFF stands where a cell has none. -/
structure CharRun where
  row : Nat
  first : Nat
  chars : String

namespace CharRun

def cell? (r : CharRun) (row cell : Nat) : Option Char :=
  if r.row = row ∧ r.first ≤ cell then
    (r.chars.toList[cell - r.first]?).filter (· != '\uFFFF')
  else none

/-- The characters of a run, in order. -/
def toList (r : CharRun) : List Char :=
  r.chars.toList.filter (· != '\uFFFF')

end CharRun

structure CharTable where
  runs : List CharRun

namespace CharTable

def cell? (t : CharTable) (row cell : Nat) : Option Char :=
  t.runs.findSome? fun r => r.cell? row cell

/-- The characters of a table, in the order of its runs. -/
def toList (t : CharTable) : List Char :=
  t.runs.flatMap CharRun.toList

end CharTable

/-- The characters from `low` up to below `high` that are not listed, in order. -/
def unlisted (low high : Nat) (listed : List Char) : Array Char :=
  let marks := listed.foldl (fun marks c =>
    if low ≤ c.toNat then marks.setIfInBounds (c.toNat - low) true else marks)
    (Array.replicate (high - low) false)
  (Array.range (high - low)).filterMap fun i =>
    if marks.getD i true || !(low + i).isValidChar then none else some (.ofNat (low + i))

end JavaCensus.Text
