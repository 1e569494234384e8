/-!
# Positions and spans

Lines and columns count from one. A span runs from its first to its last covered position; its
end may lie before its start, as in an empty text.
-/
namespace JavaCensus

structure Position where
  line : Int
  column : Int
  deriving DecidableEq, Repr, Inhabited

namespace Position

/-- Earlier lines first, then earlier columns. -/
protected def LE (p q : Position) : Prop :=
  p.line < q.line ∨ (p.line = q.line ∧ p.column ≤ q.column)

instance : LE Position := ⟨Position.LE⟩

instance (p q : Position) : Decidable (p ≤ q) :=
  inferInstanceAs (Decidable (_ ∨ _))

theorem le_iff {p q : Position} :
    p ≤ q ↔ p.line < q.line ∨ (p.line = q.line ∧ p.column ≤ q.column) :=
  Iff.rfl

theorem le_refl (p : Position) : p ≤ p :=
  le_iff.2 (.inr ⟨rfl, Int.le_refl _⟩)

theorem le_trans {p q r : Position} (h : p ≤ q) (k : q ≤ r) : p ≤ r := by
  rw [le_iff] at *
  omega

theorem le_total (p q : Position) : p ≤ q ∨ q ≤ p := by
  rw [le_iff, le_iff]
  omega

theorem le_antisymm {p q : Position} (h : p ≤ q) (k : q ≤ p) : p = q := by
  obtain ⟨l, c⟩ := p
  obtain ⟨m, d⟩ := q
  simp only [le_iff] at h k
  simp only [Position.mk.injEq]
  omega

/-- The same column, `k` lines further down. -/
def shift (k : Int) (p : Position) : Position :=
  { p with line := p.line + k }

end Position

structure Span where
  start : Position
  stop : Position
  deriving DecidableEq, Repr, Inhabited

namespace Span

def ofLines (startLine startColumn stopLine stopColumn : Int) : Span :=
  ⟨⟨startLine, startColumn⟩, ⟨stopLine, stopColumn⟩⟩

/-- Whether the other span starts and ends within this one. -/
def contains (outer inner : Span) : Prop :=
  outer.start ≤ inner.start ∧ inner.stop ≤ outer.stop

instance (outer inner : Span) : Decidable (outer.contains inner) :=
  inferInstanceAs (Decidable (_ ∧ _))

theorem contains_refl (s : Span) : s.contains s :=
  ⟨Position.le_refl _, Position.le_refl _⟩

theorem contains_trans {a b c : Span} (h : a.contains b) (k : b.contains c) : a.contains c :=
  ⟨Position.le_trans h.1 k.1, Position.le_trans k.2 h.2⟩

def startLine (s : Span) : Int := s.start.line

def stopLine (s : Span) : Int := s.stop.line

/-- Lines from the first to the last, both counted. -/
def lineCount (s : Span) : Int := s.stopLine - s.startLine + 1

def shift (k : Int) (s : Span) : Span :=
  ⟨s.start.shift k, s.stop.shift k⟩

end Span

end JavaCensus
