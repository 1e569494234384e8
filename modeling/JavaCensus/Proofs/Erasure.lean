import JavaCensus.Proofs.Rereading

/-!
# Reading without comments

A comment may stand between any two children of a tree. What a tree is read as, and why it is
refused, does not depend on the comments within it: it is the same for the tree without them, which
is a view of it.
-/
namespace JavaCensus

namespace ParseTree

mutual

/-- The tree without the comments within it. -/
def erase : ParseTree → ParseTree
  | ⟨type, named, missing, start, stop, field, children⟩ =>
    ⟨type, named, missing, start, stop, field, eraseAll children⟩

def eraseAll : List ParseTree → List ParseTree
  | [] => []
  | t :: ts => if t.isComment then eraseAll ts else t.erase :: eraseAll ts

end

section Erase

variable (t : ParseTree)

theorem eraseAll_eq (ts : List ParseTree) :
    eraseAll ts = (ts.filter fun c => !c.isComment).map erase := by
  induction ts with
  | nil => rfl
  | cons t ts ih =>
    rw [eraseAll, List.filter_cons]
    cases t.isComment <;> simp [ih]

theorem children_erase :
    t.erase.children = (t.children.filter fun c => !c.isComment).map erase := by
  cases t
  rw [erase, eraseAll_eq]

@[simp] theorem type_erase : t.erase.type = t.type := by cases t; rw [erase]

@[simp] theorem named_erase : t.erase.named = t.named := by cases t; rw [erase]

@[simp] theorem field_erase : t.erase.field = t.field := by cases t; rw [erase]

@[simp] theorem start_erase : t.erase.start = t.start := by cases t; rw [erase]

@[simp] theorem stop_erase : t.erase.stop = t.stop := by cases t; rw [erase]

@[simp] theorem isComment_erase : t.erase.isComment = t.isComment := by
  rw [isComment, type_erase, isComment]

end Erase

/-! ## Where comments may stand -/

/-- The comments directly below a tree are leaves that fill no field; none ends a labeled statement
and none begins a directive. -/
structure Apart (t : ParseTree) : Prop where
  leaf : ∀ c ∈ t.children, c.isComment → c.children = []
  fieldless : ∀ c ∈ t.children, c.isComment → c.field = none
  label : t.type = "labeled_statement" → ∀ c ∈ t.children.getLast?, c.isComment = false
  directive : t.type = "module_declaration" → ∀ d ∈ t.directiveTrees,
    ∀ c ∈ d.children.head?, c.isComment = false

instance (t : ParseTree) : Decidable t.Apart :=
  decidable_of_iff
    ((∀ c ∈ t.children, c.isComment → c.children.isEmpty) ∧
      (∀ c ∈ t.children, c.isComment → c.field = none) ∧
      (t.type = "labeled_statement" → ∀ c ∈ t.children.getLast?, c.isComment = false) ∧
      (t.type = "module_declaration" → ∀ d ∈ t.directiveTrees,
        ∀ c ∈ d.children.head?, c.isComment = false))
    ⟨fun ⟨leaf, fieldless, label, directive⟩ =>
      ⟨fun c hc comment => List.isEmpty_iff.1 (leaf c hc comment), fieldless, label, directive⟩,
    fun h => ⟨fun c hc comment => List.isEmpty_iff.2 (h.leaf c hc comment), h.fieldless, h.label,
      h.directive⟩⟩

/-- The comments stand so everywhere in a tree. -/
def CommentsApart (t : ParseTree) : Prop :=
  ∀ u ∈ t.walk, u.Apart

instance (t : ParseTree) : Decidable t.CommentsApart :=
  inferInstanceAs (Decidable (∀ u ∈ t.walk, u.Apart))

end ParseTree

namespace Reading

open ParseTree

variable (r : Reading) {t : ParseTree}

/-- The trees of a reading without their comments. -/
def erased : View where
  near := r
  far := r
  see := erase
  keeps c := !c.isComment
  lines := 0
  unit_eq := rfl
  type_see := type_erase
  named_see := named_erase
  field_see := field_erase
  children_see := children_erase
  text_see t := by simp [SourceText.text]
  span_see t := by simp [SourceText.span, Span.shift, Position.shift]
  line_see t := by simp [SourceText.line]
  isComment_of_hidden t h := by simpa using h

theorem clearBelow_erased (h : t.CommentsApart) : r.erased.ClearBelow t := by
  have kept {c : ParseTree} (h : c.isComment = false) : r.erased.keeps c = true := by
    simp [erased, h]
  intro u hu
  have apart := h u hu
  refine ⟨fun c hc hidden => ?_, fun c hc hidden => ?_, fun label c hc => ?_,
    fun module d hd c hc => ?_⟩
  · exact apart.leaf c hc (r.erased.isComment_of_hidden c hidden)
  · exact apart.fieldless c hc (r.erased.isComment_of_hidden c hidden)
  · exact kept (apart.label label c hc)
  · exact kept (apart.directive module d hd c hc)

end Reading

theorem Node.shift_zero (n : Node) : n.shift 0 = n := by
  have position (p : Position) : p.shift 0 = p := by simp [Position.shift]
  have span (s : Span) : s.shift 0 = s := by simp [Span.shift, position]
  have comment (c : Comment) : c.shift 0 = c := by simp [Comment.shift, span]
  induction n using Node.induction with
  | step n ih =>
    have parts : n.construct.map (shift 0) = n.construct.map fun m => m :=
      Construct.map_eq_map n rfl (List.map_congr_left ih)
    have slots : n.slots.shift 0 = n.slots := by simp [Slots.shift, comment]
    rw [shift_eq, parts, Construct.map_same, span, slots]
    cases n
    rfl

/-- A unit is read, or refused, as it is without its comments. -/
theorem Reading.unitOf_erase (r : Reading) {t : ParseTree} (level : LanguageLevel) (preview : Bool)
    (h : t.CommentsApart) :
    r.unitOf level preview ⟨t.erase, false⟩ = r.unitOf level preview ⟨t, false⟩ := by
  have unit (n : Node) : n.lowered 0 = n := by
    have stop : n.span.stop.shift 0 = n.span.stop := by simp [Position.shift]
    rw [Node.lowered, Int.natCast_zero, n.shift_zero, stop]
    cases n
    rfl
  have error (e : Error) : e.below 0 = e := by
    cases e with
    | rejected unit cause line => cases line <;> rfl
    | _ => rfl
  have moves := r.erased.unitOf_moves level preview false (r.clearBelow_erased h) (.pure rfl)
  rw [show r.unitOf level preview ⟨t.erase, false⟩ = _ from moves]
  show ((r.unitOf level preview ⟨t, false⟩).mapError (Error.below 0)).map (Node.lowered 0) = _
  cases r.unitOf level preview ⟨t, false⟩ with
  | error e => exact congrArg Except.error (error e)
  | ok n => exact congrArg Except.ok (unit n)

end JavaCensus
