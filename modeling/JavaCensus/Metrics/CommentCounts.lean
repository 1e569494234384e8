import JavaCensus.Syntax.Comment
import JavaCensus.Text.Blank
import JavaCensus.Text.Lines

/-!
# Counting comments

A comment counts by its kind, the lines it spans and the characters of its content, layout left
out. Counts add up; the counts of a list of comments are the sum of what each contributes.
-/
namespace JavaCensus

/-- The characters of a line that are content: white space at its ends is layout, and so are the
asterisks that frame the lines of block and documentation comments. -/
def lineContent (kind : CommentKind) (line : List Char) : List Char :=
  match kind with
  | .line => Text.strip line
  | .block | .doc => Text.strip (Text.trim (· == '*') (Text.strip line))

/-- The characters of a text that are content. -/
def contentLength (kind : CommentKind) (content : List Char) : Nat :=
  ((Text.lines content).flatMap (lineContent kind)).length

def Comment.contentLength (c : Comment) : Nat :=
  JavaCensus.contentLength c.kind c.content.toList

structure CommentCounts where
  lineComments : Int
  lineCommentsLength : Int
  blockComments : Int
  blockCommentLines : Int
  blockCommentsLength : Int
  docComments : Int
  docCommentLines : Int
  docCommentsLength : Int
  deriving DecidableEq, Repr

namespace CommentCounts

def zero : CommentCounts := ⟨0, 0, 0, 0, 0, 0, 0, 0⟩

instance : Zero CommentCounts := ⟨zero⟩

instance : Add CommentCounts where
  add a b :=
    ⟨a.lineComments + b.lineComments, a.lineCommentsLength + b.lineCommentsLength,
      a.blockComments + b.blockComments, a.blockCommentLines + b.blockCommentLines,
      a.blockCommentsLength + b.blockCommentsLength, a.docComments + b.docComments,
      a.docCommentLines + b.docCommentLines, a.docCommentsLength + b.docCommentsLength⟩

theorem add_def (a b : CommentCounts) : a + b =
    ⟨a.lineComments + b.lineComments, a.lineCommentsLength + b.lineCommentsLength,
      a.blockComments + b.blockComments, a.blockCommentLines + b.blockCommentLines,
      a.blockCommentsLength + b.blockCommentsLength, a.docComments + b.docComments,
      a.docCommentLines + b.docCommentLines, a.docCommentsLength + b.docCommentsLength⟩ :=
  rfl

theorem zero_add (a : CommentCounts) : 0 + a = a := by
  show zero + a = a
  simp [add_def, zero]

theorem add_comm (a b : CommentCounts) : a + b = b + a := by
  simp only [add_def, mk.injEq]
  omega

theorem add_assoc (a b c : CommentCounts) : a + b + c = a + (b + c) := by
  simp only [add_def, mk.injEq]
  omega

theorem add_zero (a : CommentCounts) : a + 0 = a := by
  rw [add_comm, zero_add]

/-- What one comment adds. -/
def ofComment (c : Comment) : CommentCounts :=
  match c.kind with
  | .line => ⟨1, c.contentLength, 0, 0, 0, 0, 0, 0⟩
  | .block => ⟨0, 0, 1, c.span.lineCount, c.contentLength, 0, 0, 0⟩
  | .doc => ⟨0, 0, 0, 0, 0, 1, c.span.lineCount, c.contentLength⟩

def ofComments (cs : List Comment) : CommentCounts :=
  (cs.map ofComment).foldr (· + ·) 0

/-- The number of comments of all kinds. -/
def comments (a : CommentCounts) : Int :=
  a.lineComments + a.blockComments + a.docComments

/-- Whether there are no comments, whatever the other counters say. -/
def isEmpty (a : CommentCounts) : Bool :=
  a.comments == 0

theorem ofComments_append (cs ds : List Comment) :
    ofComments (cs ++ ds) = ofComments cs + ofComments ds := by
  induction cs with
  | nil => exact (zero_add _).symm
  | cons c cs ih =>
    show ofComment c + ofComments (cs ++ ds) = ofComment c + ofComments cs + ofComments ds
    rw [ih, add_assoc]

theorem comments_add (a b : CommentCounts) : (a + b).comments = a.comments + b.comments := by
  simp only [comments, add_def]
  omega

theorem comments_ofComments (cs : List Comment) : (ofComments cs).comments = cs.length := by
  induction cs with
  | nil => rfl
  | cons c cs ih =>
    have h : (ofComment c).comments = 1 := by
      unfold ofComment comments
      cases c.kind <;> rfl
    show (ofComment c + ofComments cs).comments = _
    rw [comments_add, ih, h, List.length_cons]
    omega

end CommentCounts

end JavaCensus
