import JavaCensus.Syntax.Position

/-!
# Comments

A comment is told apart from every other by its number, so that two comments of equal text and
place stay two, and one comment met twice stays one.
-/
namespace JavaCensus

inductive CommentKind where
  | line
  | block
  | doc
  deriving DecidableEq, Repr

/-- The content is the text between the delimiters. -/
structure Comment where
  number : Nat
  kind : CommentKind
  content : String
  span : Span
  deriving DecidableEq, Repr

namespace Comment

/-- Tells the kind by the delimiters; an empty block comment is no doc comment. -/
def ofText (number : Nat) (text : List Char) (span : Span) : Comment :=
  match text with
  | '/' :: '/' :: content => ⟨number, .line, .ofList content, span⟩
  | '/' :: '*' :: '*' :: content =>
    if text = ['/', '*', '*', '/'] then ⟨number, .block, "", span⟩
    else ⟨number, .doc, .ofList (content.take (content.length - 2)), span⟩
  | _ => ⟨number, .block, .ofList ((text.take (text.length - 2)).drop 2), span⟩

def shift (k : Int) (c : Comment) : Comment :=
  { c with span := c.span.shift k }

def startsBefore (c d : Comment) : Bool :=
  c.span.start ≤ d.span.start

def startsAfter (c d : Comment) : Bool :=
  d.span.start ≤ c.span.start

end Comment

end JavaCensus
