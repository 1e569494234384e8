import JavaCensus.Source.ParseTree

/-!
# Source texts

Bytes with the two ways in which a parse tree refers to them: as text and as positions.
-/
namespace JavaCensus

/-- A row and a column, from zero, the column in bytes. -/
structure Point where
  row : Nat
  column : Nat
  deriving DecidableEq, Repr

def Point.advance (p : Point) (b : UInt8) : Point :=
  if b = 10 then ⟨p.row + 1, 0⟩ else ⟨p.row, p.column + 1⟩

/-- The point that is reached from `p` by some number of bytes. -/
def pointFrom (p : Point) : List UInt8 → Nat → Point
  | _, 0 => p
  | [], _ => p
  | b :: bs, n + 1 => pointFrom (p.advance b) bs n

structure SourceText where
  bytes : List UInt8

namespace SourceText

def ofString (s : String) : SourceText :=
  ⟨Text.Utf8.encode s.toList⟩

def point (s : SourceText) (offset : Nat) : Point :=
  pointFrom ⟨0, 0⟩ s.bytes offset

def text (s : SourceText) (t : ParseTree) : List Char :=
  Text.Utf8.decodeLossy ((s.bytes.drop t.start).take (t.stop - t.start))

/-- The first line a tree covers, from one. -/
def line (s : SourceText) (t : ParseTree) : Nat :=
  (s.point t.start).row + 1

/-- From the first to the last covered column. -/
def span (s : SourceText) (t : ParseTree) : Span :=
  let first := s.point t.start
  let last := s.point t.stop
  .ofLines (first.row + 1) (first.column + 1) (last.row + 1) last.column

end SourceText

end JavaCensus
