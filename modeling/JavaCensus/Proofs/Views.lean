import JavaCensus.Proofs.Equations
import JavaCensus.Proofs.Origins
import JavaCensus.Proofs.Translation

/-!
# Views of parse trees

A view shows each parse tree as another one, in which some comments are out of sight and everything
may stand some lines further down. What the reader selects from a tree that is shown is what it
selects from the tree, shown in turn, as long as the comments that are out of sight do not stand
where they would be selected themselves.
-/
namespace JavaCensus

open ParseTree

/-- The same trees in two readings: as they are, and as they are shown. -/
structure View where
  near : Reading
  far : Reading
  see : ParseTree → ParseTree
  keeps : ParseTree → Bool
  lines : Nat
  unit_eq : far.unit = near.unit
  type_see : ∀ t, (see t).type = t.type
  named_see : ∀ t, (see t).named = t.named
  field_see : ∀ t, (see t).field = t.field
  children_see : ∀ t, (see t).children = (t.children.filter keeps).map see
  text_see : ∀ t, far.source.text (see t) = near.source.text t
  span_see : ∀ t, far.source.span (see t) = (near.source.span t).shift lines
  line_see : ∀ t, far.source.line (see t) = near.source.line t + lines
  isComment_of_hidden : ∀ t, keeps t = false → t.isComment = true

/-- The type of a comment is none of the others. -/
theorem ParseTree.type_ne_of_isComment {c : ParseTree} (h : c.isComment) (type : String)
    (known : type ∉ ["line_comment", "block_comment", "comment"]) : (c.type == type) = false := by
  refine beq_false_of_ne fun eq => known ?_
  rw [← eq]
  exact of_decide_eq_true h

/-- The trees in the body of a module that directives are read from. -/
def ParseTree.directiveTrees (t : ParseTree) : List ParseTree :=
  (((t.field? "body").map (·.namedChildren)).getD []).filter fun c => !c.isComment

namespace View

attribute [simp] type_see named_see field_see

variable (v : View) (t : ParseTree)

@[simp] theorem isComment_see : (v.see t).isComment = t.isComment := by
  rw [isComment, type_see, isComment]

@[simp] theorem isTypeDeclaration_see : (v.see t).isTypeDeclaration = t.isTypeDeclaration := by
  rw [isTypeDeclaration, type_see, isTypeDeclaration]

variable {v t}

theorem type_ne_of_hidden {c : ParseTree} (h : v.keeps c = false) (type : String)
    (known : type ∉ ["line_comment", "block_comment", "comment"]) : (c.type == type) = false :=
  type_ne_of_isComment (v.isComment_of_hidden c h) type known

/-! ## Lists of trees -/

section Lists

variable {p : ParseTree → Bool} {ts : List ParseTree}

/-- A selection that takes nothing hidden takes the same trees when they are shown. -/
theorem filter_shown (hidden : ∀ c ∈ ts, v.keeps c = false → p c = false)
    (same : ∀ c, p (v.see c) = p c) :
    ((ts.filter v.keeps).map v.see).filter p = (ts.filter p).map v.see := by
  rw [List.filter_map, List.filter_filter]
  congr 1
  refine List.filter_congr fun c hc => ?_
  cases h : v.keeps c
  · simp [hidden c hc h]
  · simp [same]

theorem find?_shown (hidden : ∀ c ∈ ts, v.keeps c = false → p c = false)
    (same : ∀ c, p (v.see c) = p c) :
    ((ts.filter v.keeps).map v.see).find? p = (ts.find? p).map v.see := by
  rw [← List.head?_filter, ← List.head?_filter, filter_shown hidden same, List.head?_map]

theorem any_shown (hidden : ∀ c ∈ ts, v.keeps c = false → p c = false)
    (same : ∀ c, p (v.see c) = p c) :
    ((ts.filter v.keeps).map v.see).any p = ts.any p := by
  rw [← List.isSome_find?, find?_shown hidden same, Option.isSome_map, List.isSome_find?]

end Lists

/-! ## Where comments may be out of sight -/

/-- What is hidden directly below a tree are leaves that fill no field; none ends a labeled
statement and none begins a directive. -/
structure Clear (v : View) (t : ParseTree) : Prop where
  leaf : ∀ c ∈ t.children, v.keeps c = false → c.children = []
  fieldless : ∀ c ∈ t.children, v.keeps c = false → c.field = none
  label : t.type = "labeled_statement" → ∀ c ∈ t.children.getLast?, v.keeps c = true
  directive : t.type = "module_declaration" → ∀ d ∈ t.directiveTrees,
    ∀ c ∈ d.children.head?, v.keeps c = true

/-- The view is clear everywhere in a tree. -/
def ClearBelow (v : View) (t : ParseTree) : Prop :=
  ∀ u ∈ t.walk, v.Clear u

namespace ClearBelow

theorem self (h : v.ClearBelow t) : v.Clear t :=
  h t t.mem_walk_self

theorem of_mem_walk (h : v.ClearBelow t) {u : ParseTree} (hu : u ∈ t.walk) : v.ClearBelow u :=
  fun w hw => h w (mem_walk_trans hu hw)

theorem child (h : v.ClearBelow t) {c : ParseTree} (hc : c ∈ t.children) : v.ClearBelow c :=
  h.of_mem_walk (mem_walk_of_mem_children hc)

end ClearBelow

theorem Clear.field? (h : v.Clear t) (name : String) :
    (v.see t).field? name = (t.field? name).map v.see := by
  rw [ParseTree.field?, children_see]
  exact find?_shown (fun c hc hidden => by simp [h.fieldless c hc hidden]) (by simp)

theorem Clear.fields (h : v.Clear t) (name : String) :
    ((v.see t).fieldsBelow name).map (·.tree) =
      ((t.fieldsBelow name).map (·.tree)).map v.see := by
  rw [fieldsBelow_eq, fieldsBelow_eq, children_see]
  exact filter_shown (fun c hc hidden => by simp [h.fieldless c hc hidden]) (by simp)

section Selections

variable (v t)

theorem namedChildren_see :
    (v.see t).namedChildren = (t.namedChildren.filter v.keeps).map v.see := by
  rw [namedChildren, children_see, namedChildren, List.filter_map, List.filter_filter,
    List.filter_filter]
  congr 1
  exact List.filter_congr fun c _ => by simp [Bool.and_comm]

theorem codeChildren_see : ((v.see t).namedChildren.filter fun c => !c.isComment) =
    (t.namedChildren.filter fun c => !c.isComment).map v.see := by
  rw [namedChildren_see]
  exact filter_shown (fun c _ hidden => by simp [v.isComment_of_hidden c hidden]) (by simp)

theorem parts_see : (v.see t).parts.map (·.tree) = (t.parts.map (·.tree)).map v.see := by
  rw [parts_eq, parts_eq, codeChildren_see]

theorem statementTrees_see (skip : List String) :
    (v.see t).statementTrees skip = (t.statementTrees skip).map v.see := by
  rw [statementTrees, statementTrees, children_see]
  exact filter_shown (fun c _ hidden => by simp [isStatementTree, v.isComment_of_hidden c hidden])
    (by simp [isStatementTree])

/-- The first named child of a type that is no type of comments. -/
theorem named_see_find? (type : String)
    (known : type ∉ ["line_comment", "block_comment", "comment"]) :
    (v.see t).namedChildren.find? (·.type == type) =
      (t.namedChildren.find? (·.type == type)).map v.see := by
  rw [namedChildren_see]
  exact find?_shown (fun c _ hidden => type_ne_of_hidden hidden _ known) (by simp)

theorem named_see_filter (type : String)
    (known : type ∉ ["line_comment", "block_comment", "comment"]) :
    (v.see t).namedChildren.filter (·.type == type) =
      (t.namedChildren.filter (·.type == type)).map v.see := by
  rw [namedChildren_see]
  exact filter_shown (fun c _ hidden => type_ne_of_hidden hidden _ known) (by simp)

theorem any_children_see (type : String)
    (known : type ∉ ["line_comment", "block_comment", "comment"]) :
    (v.see t).children.any (·.type == type) = t.children.any (·.type == type) := by
  rw [children_see]
  exact any_shown (fun c _ hidden => type_ne_of_hidden hidden _ known) (by simp)

theorem holdsCode_see : (v.see t).holdsCode = t.holdsCode := by
  rw [holdsCode, holdsCode, type_see, namedChildren_see, any_shown
    (fun c _ hidden => type_ne_of_hidden hidden _ (by decide)) (by simp)]

variable {v t}

theorem getLast?_children_see (h : ∀ c ∈ t.children.getLast?, v.keeps c = true) :
    (v.see t).children.getLast? = t.children.getLast?.map v.see := by
  rw [children_see, List.getLast?_map]
  congr 1
  rcases List.eq_nil_or_concat t.children with none | ⟨before, last, eq⟩
  · rw [none]
    rfl
  · rw [eq, List.concat_eq_append] at h ⊢
    have last := h last (by simp)
    simp [List.filter_append, last]

theorem head?_children_see (h : ∀ c ∈ t.children.head?, v.keeps c = true) :
    (v.see t).children.head? = t.children.head?.map v.see := by
  rw [children_see, List.head?_map]
  congr 1
  cases eq : t.children with
  | nil => rfl
  | cons c cs =>
    rw [eq] at h
    have first := h c rfl
    simp [first]

theorem afterDefault_shown (ts : List ParseTree) :
    afterDefault ((ts.filter v.keeps).map v.see) = (afterDefault ts).map v.see := by
  induction ts with
  | nil => rfl
  | cons c cs ih =>
    cases kept : v.keeps c with
    | false =>
      have other : (c.type == "default") = false := type_ne_of_hidden kept _ (by decide)
      rw [List.filter_cons_of_neg (by simp [kept]), ih, afterDefault, other]
      rfl
    | true =>
      rw [List.filter_cons_of_pos kept, List.map_cons, afterDefault, afterDefault, type_see]
      split
      · exact find?_shown (fun c _ hidden => by simp [v.isComment_of_hidden c hidden]) (by simp)
      · exact ih

theorem Clear.defaultValue? (h : v.Clear t) :
    (v.see t).defaultValue?.map (·.tree) = (t.defaultValue?.map (·.tree)).map v.see := by
  rw [defaultValue?_eq, defaultValue?_eq, h.field?, children_see, afterDefault_shown]
  cases t.field? "value" <;> rfl

/-- What is hidden is a leaf, so no code is found in it. -/
theorem outermostCode_shown (stack : List ParseTree)
    (clear : ∀ t ∈ stack, v.ClearBelow t ∧ (v.keeps t = false → t.children = [])) :
    outermostCode ((stack.filter v.keeps).map v.see) = (outermostCode stack).map v.see := by
  fun_induction outermostCode stack with
  | case1 => rw [List.filter_nil, List.map_nil, outermostCode]
  | case2 t rest code ih =>
    have ih := ih fun u hu => clear u (List.mem_cons_of_mem _ hu)
    have kept : v.keeps t = true := by
      cases kept : v.keeps t with
      | true => rfl
      | false =>
        have leaf := (clear t (List.mem_cons_self ..)).2 kept
        simp [holdsCode, namedChildren, leaf, type_ne_of_hidden kept] at code
    rw [List.filter_cons_of_pos kept, List.map_cons, outermostCode, holdsCode_see, if_pos code, ih,
      List.map_cons]
  | case3 t rest noCode ih =>
    obtain ⟨inner, leaf⟩ := clear t (List.mem_cons_self ..)
    have ih := ih fun u hu => by
      rcases List.mem_append.1 hu with hu | hu
      · have hu := mem_children_of_mem_namedChildren hu
        exact ⟨inner.child hu, inner.self.leaf u hu⟩
      · exact clear u (List.mem_cons_of_mem _ hu)
    cases kept : v.keeps t with
    | false =>
      have none : t.namedChildren = [] := by rw [namedChildren, leaf kept, List.filter_nil]
      rw [none, List.nil_append] at ih
      rw [List.filter_cons_of_neg (by simp [kept]), ih, none, List.nil_append]
    | true =>
      rw [List.filter_cons_of_pos kept, List.map_cons, outermostCode, holdsCode_see,
        if_neg noCode, namedChildren_see, ← List.map_append, ← List.filter_append, ih]

theorem ClearBelow.nestedCode (h : v.ClearBelow t) :
    outermostCode (v.see t).namedChildren = (outermostCode t.namedChildren).map v.see := by
  rw [namedChildren_see]
  exact outermostCode_shown _ fun u hu =>
    have hu := mem_children_of_mem_namedChildren hu
    ⟨h.child hu, h.self.leaf u hu⟩

theorem ClearBelow.argumentTrees (h : v.ClearBelow t) :
    (v.see t).argumentTrees = t.argumentTrees.map v.see := by
  rw [ParseTree.argumentTrees, h.self.field?, ParseTree.argumentTrees]
  cases t.field? "arguments" with
  | none => rfl
  | some list => exact v.parts_see list

theorem ClearBelow.resourceTrees (h : v.ClearBelow t) :
    (v.see t).resourceTrees = t.resourceTrees.map v.see := by
  rw [ParseTree.resourceTrees, h.self.field?, ParseTree.resourceTrees]
  cases t.field? "resources" with
  | none => rfl
  | some specification => exact v.parts_see specification

theorem ClearBelow.memberTrees (h : v.ClearBelow t) :
    (v.see t).memberTrees = t.memberTrees.map v.see := by
  rw [ParseTree.memberTrees, h.self.field?, ParseTree.memberTrees]
  cases t.field? "body" with
  | none => rfl
  | some body => exact v.parts_see body

theorem Clear.directiveTrees (h : v.Clear t) :
    (v.see t).directiveTrees = t.directiveTrees.map v.see := by
  rw [ParseTree.directiveTrees, h.field?, ParseTree.directiveTrees]
  cases t.field? "body" with
  | none => rfl
  | some body => exact v.codeChildren_see body

end Selections

/-! ## Walks -/

/-- A tree met on a walk, as it is shown. -/
def seeMet (v : View) (m : Met) : Met :=
  ⟨m.parentType, v.see m.tree⟩

theorem metChildren_see (v : View) (t : ParseTree) :
    (v.see t).metChildren = (t.metChildren.filter fun m => v.keeps m.tree).map v.seeMet := by
  simp only [metChildren, type_see, children_see, List.filter_map, List.map_map]
  rfl

/-- A walk through what is shown meets the same trees but for the hidden ones. -/
theorem walkStack_shown (stack : List Met)
    (clear : ∀ m ∈ stack, v.ClearBelow m.tree ∧ (v.keeps m.tree = false → m.tree.children = [])) :
    walkStack ((stack.filter fun m => v.keeps m.tree).map v.seeMet) =
      ((walkStack stack).filter fun m => v.keeps m.tree).map v.seeMet := by
  fun_induction walkStack stack with
  | case1 => rw [List.filter_nil, List.map_nil, walkStack]
  | case2 m rest ih =>
    obtain ⟨inner, leaf⟩ := clear m (List.mem_cons_self ..)
    have ih := ih fun c hc => by
      rcases List.mem_append.1 hc with hc | hc
      · obtain ⟨u, hu, rfl⟩ := List.mem_map.1 hc
        exact ⟨inner.child hu, inner.self.leaf u hu⟩
      · exact clear c (List.mem_cons_of_mem _ hc)
    cases kept : v.keeps m.tree with
    | false =>
      have none : m.tree.metChildren = [] := by rw [metChildren, leaf kept, List.map_nil]
      rw [none, List.nil_append] at ih
      rw [List.filter_cons_of_neg (by simp [kept]), none, List.nil_append,
        List.filter_cons_of_neg (by simp [kept]), ih]
    | true =>
      rw [List.filter_cons_of_pos (by simp [kept]), List.filter_cons_of_pos (by simp [kept]),
        List.map_cons, List.map_cons, walkStack, ← ih, List.filter_append, List.map_append]
      rw [show (v.seeMet m).tree.metChildren = _ from v.metChildren_see m.tree]

/-- The trees below a tree that is shown. -/
theorem ClearBelow.descendants (h : v.ClearBelow t) :
    (v.see t).descendants =
      ⟨none, v.see t⟩ :: ((walkStack t.metChildren).filter fun m => v.keeps m.tree).map v.seeMet := by
  have inner : ∀ m ∈ t.metChildren,
      v.ClearBelow m.tree ∧ (v.keeps m.tree = false → m.tree.children = []) := by
    intro m hm
    obtain ⟨c, hc, rfl⟩ := List.mem_map.1 hm
    exact ⟨h.child hc, h.self.leaf c hc⟩
  rw [ParseTree.descendants, walkStack, List.append_nil]
  show _ :: walkStack (v.see t).metChildren = _
  rw [metChildren_see, walkStack_shown _ inner]

end View

end JavaCensus
