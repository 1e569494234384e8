/-!
# Glob patterns

A star stands for any text, a question mark for any one character, and a bracket for one
character of a set. A pattern has to match the whole text.
-/
namespace JavaCensus.Text.Glob

/-- The characters from `low` to `high`. -/
structure CharRange where
  low : Char
  high : Char
  deriving DecidableEq, Repr

/-- One place of a pattern. -/
inductive Item where
  | star
  | anyChar
  | literal (c : Char)
  | oneOf (negated : Bool) (ranges : List CharRange)
  deriving DecidableEq, Repr

/-- Cuts a set at the hyphens that make ranges; the first `n` characters are passed over. -/
def chunks : Nat → List Char → List Char → List (List Char)
  | _, acc, [] => [acc.reverse]
  | 0, acc, '-' :: cs => acc.reverse :: chunks 2 [] cs
  | n, acc, c :: cs => chunks (n - 1) (c :: acc) cs

/-- A hyphen at the very end is a character of the last chunk. -/
def closeChunks : List (List Char) → List (List Char)
  | [a, []] => [a ++ ['-']]
  | a :: rest => a :: closeChunks rest
  | [] => []

/-- Joins chunks whose range would be empty, from the last to the first. -/
def dropEmptyRanges : List (List Char) → List (List Char)
  | [] => []
  | a :: rest =>
    match dropEmptyRanges rest with
    | [] => [a]
    | b :: more =>
      match a.getLast?, b.head? with
      | some x, some y => if y < x then (a.dropLast ++ b.tail) :: more else a :: b :: more
      | _, _ => a :: b :: more

def single (c : Char) : CharRange := ⟨c, c⟩

/-- Between two chunks stands a range from the last character of one to the first of the next. -/
def rangesFrom (chunk : List Char) : List (List Char) → List CharRange
  | [] => chunk.map single
  | next :: rest =>
    match chunk.getLast?, next with
    | some x, y :: ys => chunk.dropLast.map single ++ ⟨x, y⟩ :: rangesFrom ys rest
    | _, _ => rangesFrom ('-' :: next) rest

/-- The set written between brackets; an exclamation mark in front negates it. -/
def setItem (body : List Char) : Item :=
  let free := if body.head? = some '!' then 2 else 1
  match dropEmptyRanges (closeChunks (chunks free [] body)) with
  | ('!' :: cs) :: rest => .oneOf true (rangesFrom cs rest)
  | chunk :: rest => .oneOf false (rangesFrom chunk rest)
  | [] => .oneOf false []

/-- The text up to the closing bracket, which cannot be the first character of the set. -/
def bracketBody : List Char → Option (List Char × List Char)
  | '!' :: ']' :: cs => (untilBracket cs).map fun (b, r) => ('!' :: ']' :: b, r)
  | ']' :: cs => (untilBracket cs).map fun (b, r) => (']' :: b, r)
  | cs => untilBracket cs
where
  untilBracket : List Char → Option (List Char × List Char)
    | [] => none
    | ']' :: cs => some ([], cs)
    | c :: cs => (untilBracket cs).map fun (b, r) => (c :: b, r)

/-- Reads a pattern; a bracket that is never closed stands for itself. -/
def itemsWithin : Nat → List Char → List Item
  | 0, _ => []
  | _, [] => []
  | n + 1, '*' :: cs => .star :: itemsWithin n cs
  | n + 1, '?' :: cs => .anyChar :: itemsWithin n cs
  | n + 1, '[' :: cs =>
    match bracketBody cs with
    | some (body, rest) => setItem body :: itemsWithin n rest
    | none => .literal '[' :: itemsWithin n cs
  | n + 1, c :: cs => .literal c :: itemsWithin n cs

def items (pattern : List Char) : List Item :=
  itemsWithin pattern.length pattern

/-- Whether some end of the text is accepted. -/
def someEnd (accepts : List Char → Bool) : List Char → Bool
  | [] => accepts []
  | c :: cs => accepts (c :: cs) || someEnd accepts cs

def CharRange.holds (r : CharRange) (c : Char) : Bool :=
  r.low ≤ c && c ≤ r.high

def Item.accepts (item : Item) (c : Char) : Bool :=
  match item with
  | .star | .anyChar => true
  | .literal d => c == d
  | .oneOf negated ranges => ranges.any (·.holds c) != negated

def itemsMatch : List Item → List Char → Bool
  | [], cs => cs.isEmpty
  | .star :: items, cs => someEnd (itemsMatch items) cs
  | item :: items, c :: cs => item.accepts c && itemsMatch items cs
  | _ :: _, [] => false

/-- Whether the whole text matches the pattern. -/
def globMatches (pattern text : String) : Bool :=
  itemsMatch (items pattern.toList) text.toList

end JavaCensus.Text.Glob
