import JavaCensus.Report.Emoji

/-!
# Style marks

Names in brackets set the style of the text behind them and are not shown: `[blue]` opens a style,
`[/blue]` closes it, and `[/]` closes the one that was opened last. A backslash before a mark makes
plain text of it.
-/
namespace JavaCensus
namespace StyleMarks

inductive Part where
  | plain (text : List Char)
  | mark (name : List Char)
  deriving DecidableEq, Repr

/-- The characters that a mark may begin with. -/
def beginsMark (c : Char) : Bool :=
  c.isLower || c == '#' || c == '/' || c == '@'

def isBracket (c : Char) : Bool :=
  c == '[' || c == ']'

/-- The mark whose bracket stands before the text, and what follows it. -/
def readMark? (cs : List Char) : Option (List Char × List Char) :=
  match cs.takeWhile (!isBracket ·), cs.dropWhile (!isBracket ·) with
  | c :: name, ']' :: rest => if beginsMark c then some (c :: name, rest) else none
  | _, _ => none

theorem eq_append_of_readMark? {cs name rest : List Char} (h : readMark? cs = some (name, rest)) :
    cs = name ++ ']' :: rest := by
  unfold readMark? at h
  split at h
  · next c name' rest' ht hd =>
    split at h
    · cases h
      rw [← ht, ← hd, List.takeWhile_append_dropWhile]
    · cases h
  · cases h

theorem length_rest_lt {cs name rest : List Char} (h : readMark? cs = some (name, rest)) :
    rest.length < cs.length := by
  rw [eq_append_of_readMark? h]
  simp
  omega

/-- As many backslashes as are said. -/
def backslashes (n : Nat) : List Char :=
  List.replicate n '\\'

/-- Cuts a text into its parts, given the plain text and the number of backslashes before it. Of
the backslashes before a mark each second one is shown, and an odd one makes it plain text. -/
def parts (before : List Char) (slashes : Nat) : List Char → List Part
  | [] => [.plain (before ++ backslashes slashes)]
  | '\\' :: cs => parts before (slashes + 1) cs
  | '[' :: cs =>
    match h : readMark? cs with
    | some (name, rest) =>
      have := length_rest_lt h
      .plain before :: .plain (backslashes (slashes / 2)) ::
        (if slashes % 2 = 1 then .plain ('[' :: name ++ [']']) else .mark name) :: parts [] 0 rest
    | none => parts (before ++ backslashes slashes ++ ['[']) 0 cs
  | c :: cs => parts (before ++ backslashes slashes ++ [c]) 0 cs
  termination_by cs => cs.length

/-- Makes plain text of all marks, given the number of backslashes before the text. A single
backslash at the end is doubled, so that it cannot make plain text of a mark that follows. -/
def escapeBehind (slashes : Nat) : List Char → List Char
  | [] => backslashes (if slashes = 1 then 2 else slashes)
  | '\\' :: cs => escapeBehind (slashes + 1) cs
  | '[' :: cs =>
    match h : readMark? cs with
    | some (name, rest) =>
      have := length_rest_lt h
      backslashes (2 * slashes + 1) ++ '[' :: name ++ ']' :: escapeBehind 0 rest
    | none => backslashes slashes ++ '[' :: escapeBehind 0 cs
  | c :: cs => backslashes slashes ++ c :: escapeBehind 0 cs
  termination_by cs => cs.length

/-- A text all of which is plain. -/
def escape (cs : List Char) : List Char :=
  escapeBehind 0 cs

/-- A backslash before a bracket is not shown, even if no mark follows. -/
def bareBrackets : List Char → List Char
  | [] => []
  | '\\' :: '[' :: cs => '[' :: bareBrackets cs
  | c :: cs => c :: bareBrackets cs

/-- What is shown of plain text. -/
def plainShown (cs : List Char) : List Char :=
  Emoji.replace (bareBrackets cs)

/-- The name of a mark without its value. -/
def nameOf (mark : List Char) : List Char :=
  mark.takeWhile (· != '=')

/-- The style that a name stands for. -/
def styleOf (name : List Char) : List Char :=
  (Text.strip name).map (·.toLower)

/-- The styles that stay open behind a mark, the last opened first. A mark that closes a style
needs one to close. -/
def openBehind? (opened : List (List Char)) (mark : List Char) : Option (List (List Char)) :=
  match nameOf mark with
  | '/' :: name =>
    if Text.strip name = [] then opened.tail?
    else if styleOf name ∈ opened then some (opened.erase (styleOf name))
    else none
  | name => some (styleOf name :: opened)

/-- What is shown of parts, unless a mark closes what is not open. -/
def shownParts? : List (List Char) → List Part → Option (List Char)
  | _, [] => some []
  | opened, .plain text :: ps => (shownParts? opened ps).map (plainShown text ++ ·)
  | opened, .mark name :: ps => (openBehind? opened name).bind (shownParts? · ps)

/-- What is shown of a text, unless a mark closes what is not open. -/
def shown? (s : String) : Option String :=
  (shownParts? [] (parts [] 0 s.toList)).map .ofList

example : shown? "to [blue]a[b].txt[/blue]" = some "to a.txt" := by cbv

example : shown? "to [blue]a[/b].txt[/blue]" = none := by cbv

end StyleMarks
end JavaCensus
