/-!
# Line breaks

A line ends at a line feed, a carriage return, or the two together.
-/
namespace JavaCensus.Text

/-- The lines of a text, without their breaks; there is always at least one. -/
def lines : List Char → List (List Char)
  | [] => [[]]
  | '\r' :: '\n' :: cs => [] :: lines cs
  | c :: cs =>
    if c = '\n' ∨ c = '\r' then [] :: lines cs
    else match lines cs with
      | [] => [[c]]
      | l :: ls => (c :: l) :: ls

/-- Every line break becomes a line feed. -/
def unifyBreaks (cs : List Char) : List Char :=
  List.intercalate ['\n'] (lines cs)

end JavaCensus.Text
