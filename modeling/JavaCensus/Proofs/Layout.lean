import JavaCensus.Metrics.CommentCounts
import Mathlib

/-!
# Layout of comments

The content of a comment does not depend on how its text is laid out: on the breaks between its
lines, on white space at their ends and on the asterisks that frame them. Breaks of two characters
need no care: a carriage return and a line feed with nothing between them enclose an empty line,
which has no content.
-/
namespace JavaCensus

namespace Text

/-! ## Trimming -/

section Trimming

variable {p : Char → Bool} {cs left right text : List Char}

/-- Neither the first nor the last character is in `p`; an empty text has neither. -/
def Bounded (p : Char → Bool) (text : List Char) : Prop :=
  (∀ c ∈ text.head?, p c = false) ∧ ∀ c ∈ text.getLast?, p c = false

theorem Bounded.of_forall (h : ∀ c ∈ text, p c = false) : Bounded p text :=
  ⟨fun c hc => h c (List.mem_of_mem_head? hc), fun c hc => h c (List.mem_of_getLast? hc)⟩

theorem Bounded.mono {q : Char → Bool} (h : Bounded p text) (le : ∀ c, p c = false → q c = false) :
    Bounded q text :=
  ⟨fun c hc => le c (h.1 c hc), fun c hc => le c (h.2 c hc)⟩

theorem dropWhile_append_of_head (any : text ≠ []) (first : ∀ c ∈ text.head?, p c = false)
    (left after : List Char) :
    (left ++ (text ++ after)).dropWhile p = left.dropWhile p ++ (text ++ after) := by
  obtain ⟨c, cs, rfl⟩ := List.exists_cons_of_ne_nil any
  have stop : ¬p c = true := by simp [first c rfl]
  rw [List.dropWhile_append]
  split
  · rename_i gone
    rw [List.isEmpty_iff.1 gone, List.cons_append, List.dropWhile_cons_of_neg stop, List.nil_append]
  · rfl

theorem rdropWhile_append_of_getLast (any : text ≠ []) (last : ∀ c ∈ text.getLast?, p c = false)
    (before right : List Char) :
    (before ++ text ++ right).rdropWhile p = before ++ text ++ right.rdropWhile p := by
  have first : ∀ c ∈ text.reverse.head?, p c = false := by
    rw [List.head?_reverse]
    exact last
  rw [List.rdropWhile, List.reverse_append, List.reverse_append,
    dropWhile_append_of_head (mt List.reverse_eq_nil_iff.1 any) first]
  simp [List.rdropWhile]

theorem trim_eq (p : Char → Bool) (cs : List Char) : trim p cs = (cs.dropWhile p).rdropWhile p :=
  rfl

theorem trim_eq_nil (all : ∀ c ∈ cs, p c) : trim p cs = [] := by
  rw [trim_eq, List.dropWhile_eq_nil_iff.2 all]
  rfl

/-- What is trimmed around a text that ends in other characters on both sides. -/
theorem trim_around (any : text ≠ []) (bounded : Bounded p text) (left right : List Char) :
    trim p (left ++ text ++ right) = left.dropWhile p ++ text ++ right.rdropWhile p := by
  rw [trim_eq, List.append_assoc, dropWhile_append_of_head any bounded.1, ← List.append_assoc,
    rdropWhile_append_of_getLast any bounded.2]

theorem trim_of_bounded (bounded : Bounded p text) : trim p text = text := by
  by_cases any : text = []
  · rw [any]
    rfl
  · have around := trim_around any bounded [] []
    simpa using around

/-- Characters that are trimmed anyway make no difference at the ends. -/
theorem trim_append (left_all : ∀ c ∈ left, p c) (right_all : ∀ c ∈ right, p c)
    (cs : List Char) : trim p (left ++ cs ++ right) = trim p cs := by
  have none : right.dropWhile p = [] := List.dropWhile_eq_nil_iff.2 right_all
  have last (before : List Char) : (before ++ right).rdropWhile p = before.rdropWhile p := by
    rw [List.rdropWhile, List.reverse_append,
      List.dropWhile_append_of_pos fun c hc => right_all c (List.mem_reverse.1 hc)]
    rfl
  rw [trim_eq, trim_eq, List.append_assoc, List.dropWhile_append_of_pos left_all,
    List.dropWhile_append]
  split
  · rename_i gone
    rw [none, List.isEmpty_iff.1 gone]
  · exact last _

end Trimming

/-! ## Breaking lines -/

/-- A character that breaks a line, alone or with another one. -/
def isBreak (c : Char) : Bool :=
  c == '\n' || c == '\r'

inductive LineBreak where
  | lineFeed
  | carriageReturn
  | both

def LineBreak.chars : LineBreak → List Char
  | lineFeed => ['\n']
  | carriageReturn => ['\r']
  | both => ['\r', '\n']

/-- The lines, with a break behind each but the last. -/
def joinLines : (breaks : Nat → LineBreak) → List (List Char) → List Char
  | _, [] => []
  | _, [l] => l
  | breaks, l :: ls => l ++ (breaks 0).chars ++ joinLines (fun i => breaks (i + 1)) ls

/-- Breaking at each character of a break gives the same first line, and the same lines after it
but for empty ones. -/
theorem lines_eq_splitOnP (cs : List Char) : ∃ first rest others,
    lines cs = first :: rest ∧ cs.splitOnP isBreak = first :: others ∧
      rest.filter (· ≠ []) = others.filter (· ≠ []) := by
  fun_induction lines cs with
  | case1 => exact ⟨[], [], [], rfl, rfl, rfl⟩
  | case2 cs ih =>
    -- the empty line between the two characters is the only difference
    obtain ⟨first, rest, others, hlines, hsplit, same⟩ := ih
    refine ⟨[], first :: rest, [] :: first :: others, by rw [hlines], ?_, ?_⟩
    · simp [List.splitOnP_cons_eq_if_modifyHead, isBreak, hsplit]
    · simp only [List.filter_cons, same]
      simp
  | case3 c cs _ breaks ih =>
    obtain ⟨first, rest, others, hlines, hsplit, same⟩ := ih
    refine ⟨[], first :: rest, first :: others, by rw [hlines], ?_, ?_⟩
    · simp [List.splitOnP_cons_eq_if_modifyHead, isBreak, breaks, hsplit]
    · simp only [List.filter_cons, same]
  | case4 c cs _ _ none ih =>
    obtain ⟨first, rest, others, hlines, _, _⟩ := ih
    rw [none] at hlines
    cases hlines
  | case5 c cs _ breaks l ls some ih =>
    obtain ⟨first, rest, others, hlines, hsplit, same⟩ := ih
    rw [some] at hlines
    cases hlines
    refine ⟨c :: l, ls, others, rfl, ?_, same⟩
    have other : isBreak c = false := by simpa [isBreak] using breaks
    simp [List.splitOnP_cons_eq_if_modifyHead, other, hsplit]

/-- The content of lines is the content of the pieces between the characters that break them. -/
theorem flatMap_lines {f : List Char → List Char} (empty : f [] = []) (cs : List Char) :
    (lines cs).flatMap f = (cs.splitOnP isBreak).flatMap f := by
  have skip (ls : List (List Char)) : ls.flatMap f = (ls.filter (· ≠ [])).flatMap f := by
    induction ls with
    | nil => rfl
    | cons l ls ih => cases l <;> simp [empty, ih]
  obtain ⟨first, rest, others, hlines, hsplit, same⟩ := lines_eq_splitOnP cs
  rw [hlines, hsplit, List.flatMap_cons, List.flatMap_cons, skip rest, same, ← skip]

end Text

open Text

theorem lineContent_nil (kind : CommentKind) : lineContent kind [] = [] := by
  cases kind <;> rfl

theorem contentLength_eq (kind : CommentKind) (cs : List Char) : contentLength kind cs =
    ((cs.splitOnP isBreak).flatMap (lineContent kind)).length := by
  rw [contentLength, flatMap_lines (lineContent_nil kind)]

theorem contentLength_append_cons (kind : CommentKind) (a b : List Char) {c : Char}
    (h : isBreak c = true) :
    contentLength kind (a ++ c :: b) = contentLength kind a + contentLength kind b := by
  rw [contentLength_eq, List.splitOnP_append_cons a b h, List.flatMap_append, List.length_append,
    ← contentLength_eq, ← contentLength_eq]

theorem contentLength_nil (kind : CommentKind) : contentLength kind [] = 0 := by
  cases kind <;> rfl

/-- A break between two contents adds nothing to them, also where it runs together with a break
at the end of the one or the start of the other. -/
theorem contentLength_append (kind : CommentKind) (a : List Char) (br : LineBreak)
    (b : List Char) :
    contentLength kind (a ++ br.chars ++ b) = contentLength kind a + contentLength kind b := by
  rw [List.append_assoc]
  cases br with
  | lineFeed => exact contentLength_append_cons kind a b rfl
  | carriageReturn => exact contentLength_append_cons kind a b rfl
  | both =>
    have first := contentLength_append_cons kind a ('\n' :: b) (c := '\r') rfl
    have second := contentLength_append_cons kind [] b (c := '\n') rfl
    rw [contentLength_nil, Nat.zero_add] at second
    exact first.trans (congrArg _ second)

theorem contentLength_of_unbroken (kind : CommentKind) {l : List Char}
    (h : ∀ c ∈ l, isBreak c = false) : contentLength kind l = (lineContent kind l).length := by
  rw [contentLength_eq, List.splitOnP_eq_singleton h, List.flatMap_singleton]

theorem contentLength_joinLines (kind : CommentKind) (breaks : Nat → LineBreak)
    {ls : List (List Char)} (h : ∀ l ∈ ls, ∀ c ∈ l, isBreak c = false) :
    contentLength kind (joinLines breaks ls) =
      (ls.map fun l => (lineContent kind l).length).sum := by
  induction ls generalizing breaks with
  | nil => exact contentLength_nil kind
  | cons l ls ih =>
    have alone := contentLength_of_unbroken kind (h l (List.mem_cons_self ..))
    cases ls with
    | nil => simpa [joinLines] using alone
    | cons l' ls =>
      rw [joinLines, contentLength_append, alone,
        ih _ fun k hk => h k (List.mem_cons_of_mem _ hk), List.map_cons (l := l' :: ls),
        List.sum_cons]
      exact List.cons_ne_nil _ _

/-! ## Margins -/

/-- What may stand at an end of a line: white space, asterisks unless it is a line comment, and
white space again, each of them possibly empty. -/
structure Margin (kind : CommentKind) where
  outer : List Char
  stars : List Char
  inner : List Char
  outer_blank : ∀ c ∈ outer, isBlank c
  stars_eq : ∀ c ∈ stars, c = '*'
  inner_blank : ∀ c ∈ inner, isBlank c
  unframed : kind = .line → stars = []

namespace Margin

variable {kind : CommentKind}

/-- In front of a line. -/
def before (m : Margin kind) : List Char :=
  m.outer ++ m.stars ++ m.inner

/-- Behind a line. -/
def after (m : Margin kind) : List Char :=
  m.inner ++ m.stars ++ m.outer

def reverse (m : Margin kind) : Margin kind where
  outer := m.outer.reverse
  stars := m.stars.reverse
  inner := m.inner.reverse
  outer_blank c hc := m.outer_blank c (List.mem_reverse.1 hc)
  stars_eq c hc := m.stars_eq c (List.mem_reverse.1 hc)
  inner_blank c hc := m.inner_blank c (List.mem_reverse.1 hc)
  unframed h := by rw [m.unframed h]; rfl

theorem before_reverse (m : Margin kind) : m.reverse.before = m.after.reverse := by
  simp [before, after, reverse]

theorem not_blank_stars (m : Margin kind) : ∀ c ∈ m.stars, isBlank c = false := by
  intro c hc
  rw [m.stars_eq c hc]
  rfl

theorem blank_before {m : Margin kind} (plain : m.stars = []) : ∀ c ∈ m.before, isBlank c := by
  intro c hc
  simp only [before, plain, List.append_nil, List.mem_append] at hc
  exact hc.elim (m.outer_blank c) (m.inner_blank c)

theorem blank_after {m : Margin kind} (plain : m.stars = []) : ∀ c ∈ m.after, isBlank c := by
  intro c hc
  simp only [after, plain, List.append_nil, List.mem_append] at hc
  exact hc.elim (m.inner_blank c) (m.outer_blank c)

/-- Nothing is left of a margin in front of a text. -/
theorem dropWhile_before (m : Margin kind) :
    ((m.before.dropWhile isBlank).dropWhile (· == '*')).dropWhile isBlank = [] := by
  by_cases plain : m.stars = []
  · rw [List.dropWhile_eq_nil_iff.2 (blank_before plain)]
    rfl
  · have outer : m.before.dropWhile isBlank = m.stars ++ m.inner := by
      have stop := dropWhile_append_of_head plain (Bounded.of_forall m.not_blank_stars).1 m.outer
        m.inner
      rwa [List.dropWhile_eq_nil_iff.2 m.outer_blank, ← List.append_assoc] at stop
    have stars : ∀ c ∈ m.stars, (c == '*') = true := fun c hc => beq_iff_eq.2 (m.stars_eq c hc)
    rw [outer, List.dropWhile_append_of_pos stars]
    exact List.dropWhile_eq_nil_iff.2 fun c hc =>
      m.inner_blank c ((List.dropWhile_sublist _).subset hc)

theorem rdropWhile_after (m : Margin kind) :
    ((m.after.rdropWhile isBlank).rdropWhile (· == '*')).rdropWhile isBlank = [] := by
  have front := m.reverse.dropWhile_before
  rw [before_reverse] at front
  simpa [List.rdropWhile] using front

theorem trim_stars (m : Margin kind) : trim (· == '*') m.stars = [] :=
  trim_eq_nil fun c hc => beq_iff_eq.2 (m.stars_eq c hc)

theorem strip_stars (m : Margin kind) : strip m.stars = m.stars :=
  trim_of_bounded (.of_forall m.not_blank_stars)

/-- White space between asterisks is kept until they are gone. -/
theorem trim_stars_around {left right : Margin kind} (framed : left.stars ≠ [])
    (framed' : right.stars ≠ []) {gap : List Char} (blank : ∀ c ∈ gap, isBlank c) :
    strip (left.stars ++ gap ++ right.stars) = left.stars ++ gap ++ right.stars ∧
      trim (· == '*') (left.stars ++ gap ++ right.stars) = gap := by
  have other : ∀ c ∈ gap, (c == '*') = false := by
    intro c hc
    refine beq_eq_false_iff_ne.2 ?_
    rintro rfl
    cases blank _ hc
  constructor
  · refine trim_of_bounded ⟨fun c hc => ?_, fun c hc => ?_⟩
    · rw [List.append_assoc, List.head?_append_of_ne_nil _ framed] at hc
      exact left.not_blank_stars c (List.mem_of_mem_head? hc)
    · rw [List.getLast?_append_of_ne_nil _ framed'] at hc
      exact right.not_blank_stars c (List.mem_of_getLast? hc)
  · rw [trim_append (fun c hc => beq_iff_eq.2 (left.stars_eq c hc))
      fun c hc => beq_iff_eq.2 (right.stars_eq c hc), trim_of_bounded (.of_forall other)]

/-- Margins with nothing between them have no content. -/
theorem trim_margins (left right : Margin kind) :
    strip (trim (· == '*') (strip (left.before ++ right.after))) = [] := by
  by_cases plain : left.stars = []
  · -- asterisks at one end only are all that the first strip leaves
    have stripped : strip (left.before ++ right.after) = right.stars := by
      have front : ∀ c ∈ left.before ++ right.inner, isBlank c := fun c hc =>
        (List.mem_append.1 hc).elim (blank_before plain c) (right.inner_blank c)
      have line := trim_append front right.outer_blank right.stars
      rw [← strip, ← strip, strip_stars] at line
      simpa [after] using line
    rw [stripped, trim_stars]
    rfl
  by_cases plain' : right.stars = []
  · have stripped : strip (left.before ++ right.after) = left.stars := by
      have back : ∀ c ∈ left.inner ++ right.after, isBlank c := fun c hc =>
        (List.mem_append.1 hc).elim (left.inner_blank c) (blank_after plain' c)
      have line := trim_append left.outer_blank back left.stars
      rw [← strip, ← strip, strip_stars] at line
      simpa [before] using line
    rw [stripped, trim_stars]
    rfl
  · have blank : ∀ c ∈ left.inner ++ right.inner, isBlank c := fun c hc =>
      (List.mem_append.1 hc).elim (left.inner_blank c) (right.inner_blank c)
    obtain ⟨kept, gone⟩ := trim_stars_around plain plain' blank
    have stripped : strip (left.before ++ right.after) =
        left.stars ++ (left.inner ++ right.inner) ++ right.stars := by
      have line := trim_append left.outer_blank right.outer_blank
        (left.stars ++ (left.inner ++ right.inner) ++ right.stars)
      rw [← strip, ← strip, kept] at line
      simpa [before, after] using line
    rw [stripped, gone]
    exact trim_eq_nil blank

end Margin

/-- The character frames texts of comments of the kind. -/
def isFraming (kind : CommentKind) (c : Char) : Bool :=
  isBlank c || (kind ≠ .line && c == '*')

/-- A line of a comment: a text, which does not start or end as a margin does, between margins. -/
structure MarginedLine (kind : CommentKind) where
  left : Margin kind
  text : List Char
  right : Margin kind
  bounded : Bounded (isFraming kind) text
  unbroken : ∀ c ∈ left.before ++ text ++ right.after, isBreak c = false

namespace MarginedLine

variable {kind : CommentKind}

def chars (l : MarginedLine kind) : List Char :=
  l.left.before ++ l.text ++ l.right.after

/-- The content of a line is its text. -/
theorem lineContent_chars (l : MarginedLine kind) : lineContent kind l.chars = l.text := by
  have blank : Bounded isBlank l.text := l.bounded.mono fun c hc => (Bool.or_eq_false_iff.1 hc).1
  have framed (frames : kind ≠ .line) :
      strip (trim (· == '*') (strip l.chars)) = l.text := by
    have star : Bounded (· == '*') l.text := l.bounded.mono fun c hc => by
      simpa [isFraming, frames] using (Bool.or_eq_false_iff.1 hc).2
    by_cases any : l.text = []
    · have margins := Margin.trim_margins l.left l.right
      rw [chars, any, List.append_nil]
      exact margins
    · rw [strip, strip, chars, trim_around any blank, trim_around any star, trim_around any blank,
        Margin.dropWhile_before, Margin.rdropWhile_after]
      simp
  cases kind with
  | line =>
    have plain := Margin.blank_before (l.left.unframed rfl)
    have plain' := Margin.blank_after (l.right.unframed rfl)
    exact (trim_append plain plain' l.text).trans (trim_of_bounded blank)
  | block => exact framed (by decide)
  | doc => exact framed (by decide)

end MarginedLine

/-- However the lines of a comment are broken and whatever margins they have, the length of its
content is that of their texts; and whatever two contents are, a break between them adds nothing. -/
theorem Comment.contentLength_ignores_layout (number : Nat) (kind : CommentKind) (span : Span) :
    (∀ (breaks : Nat → LineBreak) (lines : List (MarginedLine kind)),
      (Comment.mk number kind
          (.ofList (joinLines breaks (lines.map (·.chars)))) span).contentLength =
        (lines.map (·.text.length)).sum) ∧
    ∀ (a b : String) (br : LineBreak),
      (Comment.mk number kind (a ++ .ofList br.chars ++ b) span).contentLength =
        (Comment.mk number kind a span).contentLength +
          (Comment.mk number kind b span).contentLength := by
  constructor
  · intro breaks lines
    have unbroken : ∀ l ∈ lines.map (·.chars), ∀ c ∈ l, isBreak c = false := by
      intro l hl
      obtain ⟨m, _, rfl⟩ := List.mem_map.1 hl
      exact m.unbroken
    simp only [contentLength, String.toList_ofList, contentLength_joinLines kind breaks unbroken,
      List.map_map, Function.comp_def, MarginedLine.lineContent_chars]
  · intro a b br
    simp only [contentLength, String.toList_append, String.toList_ofList, contentLength_append]

example : contentLength .doc
    ['*', '\r', '\n', ' ', '*', ' ', 'a', ' ', 'b', '\r', '*'] = 3 := by decide

end JavaCensus
