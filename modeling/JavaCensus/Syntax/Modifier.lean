/-!
# Modifiers
-/
namespace JavaCensus

inductive Modifier where
  | «public» | «protected» | «private» | «abstract» | «static» | «final» | «sealed» | nonSealed
  | strictfp | «default» | «synchronized» | native | transient | volatile
  deriving DecidableEq, Repr

namespace Modifier

def all : List Modifier :=
  [.public, .protected, .private, .abstract, .static, .final, .sealed, .nonSealed, .strictfp,
    .default, .synchronized, .native, .transient, .volatile]

def keyword : Modifier → String
  | .public => "public"
  | .protected => "protected"
  | .private => "private"
  | .abstract => "abstract"
  | .static => "static"
  | .final => "final"
  | .sealed => "sealed"
  | .nonSealed => "non-sealed"
  | .strictfp => "strictfp"
  | .default => "default"
  | .synchronized => "synchronized"
  | .native => "native"
  | .transient => "transient"
  | .volatile => "volatile"

def ofKeyword? (word : String) : Option Modifier :=
  all.find? (·.keyword == word)

theorem ofKeyword?_keyword (m : Modifier) : ofKeyword? m.keyword = some m := by
  cases m <;> decide

end Modifier

/-- Keeps the first of equal elements. -/
def distinct {α : Type} [DecidableEq α] : List α → List α
  | [] => []
  | x :: xs => x :: (distinct xs).filter (· ≠ x)

end JavaCensus
