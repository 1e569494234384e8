import JavaCensus.Text.Width

/-!
# Text on a terminal

What a terminal shows of a text: control characters vanish, and tabs become spaces.
-/
namespace JavaCensus

/-- The control characters that a terminal does not show: bell, backspace, vertical tab, form feed
and carriage return. -/
def isHiddenControl (c : Char) : Bool :=
  c.toNat ∈ [7, 8, 11, 12, 13]

/-- Tabs become spaces up to the next multiple of eight columns. -/
def expandTabs (column : Nat) : List Char → List Char
  | [] => []
  | '\t' :: cs =>
    let gap := 8 - column % 8
    List.replicate gap ' ' ++ expandTabs (column + gap) cs
  | '\n' :: cs => '\n' :: expandTabs 0 cs
  | c :: cs => c :: expandTabs (column + Text.width c) cs

/-- What a terminal shows of a text. -/
def shown (s : String) : String :=
  .ofList (expandTabs 0 (s.toList.filter fun c => !isHiddenControl c))

end JavaCensus
