/-!
# XML elements

Elements with attributes and no text of their own, and how they are written: indented by two
spaces, with what an attribute must not hold escaped.
-/
namespace JavaCensus

/-- The attributes stand in the order in which they are written. -/
structure Markup where
  tag : String
  attributes : List (String × String)
  children : List Markup

namespace Markup

/-- How a character is written in an attribute. -/
def escapedChar : Char → List Char
  | '&' => "&amp;".toList
  | '<' => "&lt;".toList
  | '>' => "&gt;".toList
  | '"' => "&quot;".toList
  | '\r' => "&#13;".toList
  | '\n' => "&#10;".toList
  | '\t' => "&#09;".toList
  | c => [c]

def escaped (s : String) : String :=
  .ofList (s.toList.flatMap escapedChar)

def attributeText (a : String × String) : String :=
  " " ++ a.1 ++ "=\"" ++ escaped a.2 ++ "\""

/-- A new line at a level. -/
def newline (level : Nat) : String :=
  "\n" ++ .ofList (List.replicate (2 * level) ' ')

mutual

/-- The text of an element that stands at a level. -/
def textAt (level : Nat) : Markup → String
  | ⟨tag, attributes, children⟩ =>
    let opening := "<" ++ tag ++ String.join (attributes.map attributeText)
    if children.isEmpty then opening ++ " />"
    else opening ++ ">" ++ textsAt (level + 1) children ++ newline level ++ "</" ++ tag ++ ">"

/-- Elements on lines of their own. -/
def textsAt (level : Nat) : List Markup → String
  | [] => ""
  | m :: ms => newline level ++ textAt level m ++ textsAt level ms

end

/-- A whole document, with its declaration in front. -/
def text (m : Markup) : String :=
  "<?xml version='1.0' encoding='utf-8'?>\n" ++ m.textAt 0

end Markup

end JavaCensus
