import JavaCensus.Proofs.Coverage

/-!
# Shapes of covered trees

A tree is covered if it has one of the shapes that a grammar gives: code stands only in the fields
and lists that the tree is read from, and a field from which one tree is taken is filled once.
-/
namespace JavaCensus

namespace ParseTree

/-! ## Where code stands -/

theorem flatMap_filter_of_nil {α β : Type} {f : α → List β} {p : α → Bool} {xs : List α}
    (nothing : ∀ x ∈ xs, p x = false → f x = []) : (xs.filter p).flatMap f = xs.flatMap f := by
  induction xs with
  | nil => rfl
  | cons x xs ih =>
    have rest := ih fun y hy => nothing y (List.mem_cons_of_mem _ hy)
    cases hx : p x with
    | true => rw [List.filter_cons_of_pos hx, List.flatMap_cons, List.flatMap_cons, rest]
    | false =>
      rw [List.filter_cons_of_neg (by simp [hx]), List.flatMap_cons,
        nothing x (List.mem_cons_self ..) hx, List.nil_append, rest]

/-- What satisfies one of some tests that exclude each other, test by test. -/
theorem filter_any_perm {α : Type} {ps : List (α → Bool)} {xs : List α}
    (apart : ps.Pairwise fun p q => ∀ x ∈ xs, p x = true → q x = false) :
    (xs.filter fun x => ps.any (· x)).Perm (ps.flatMap xs.filter) := by
  induction ps with
  | nil => simp
  | cons p ps ih =>
    obtain ⟨first, rest⟩ := List.pairwise_cons.1 apart
    have others : ∀ x ∈ xs, p x = true → ps.any (· x) = false := by
      intro x hx hp
      simp only [List.any_eq_false, Bool.not_eq_true]
      exact fun q hq => first q hq x hx hp
    have split := List.filter_append_perm p (xs.filter fun x => (p :: ps).any (· x))
    rw [List.filter_filter, List.filter_filter] at split
    have own : (xs.filter fun x => p x && (p :: ps).any (· x)) = xs.filter p :=
      List.filter_congr fun x _ => by cases hp : p x <;> simp [hp]
    have other : (xs.filter fun x => !p x && (p :: ps).any (· x)) =
        xs.filter fun x => ps.any (· x) := by
      refine List.filter_congr fun x hx => ?_
      cases hp : p x with
      | true => simp [others x hx hp]
      | false => simp [hp]
    rw [own, other] at split
    rw [List.flatMap_cons]
    exact split.symm.trans ((ih rest).append_left _)

/-- The code of some trees is that of others, with or without what stands in annotations. -/
structure Within (ts us : List ParseTree) : Prop where
  all : (ts.flatMap held).Subperm (us.flatMap held)
  once : (us.flatMap code).Subperm (ts.flatMap code)

namespace Within

variable {ts us vs ws : List ParseTree}

theorem refl (ts : List ParseTree) : Within ts ts :=
  ⟨.refl _, .refl _⟩

theorem trans (h : Within ts us) (k : Within us vs) : Within ts vs :=
  ⟨h.all.trans k.all, k.once.trans h.once⟩

theorem append (h : Within ts us) (k : Within vs ws) : Within (ts ++ vs) (us ++ ws) := by
  constructor <;> simp only [List.flatMap_append]
  · exact h.all.append k.all
  · exact h.once.append k.once

theorem flatMap {g : ParseTree → List ParseTree} (each : ∀ t ∈ ts, Within [t] (g t)) :
    Within ts (ts.flatMap g) := by
  induction ts with
  | nil => exact refl []
  | cons t ts ih =>
    exact (each t (List.mem_cons_self ..)).append
      (ih fun u hu => each u (List.mem_cons_of_mem _ hu))

end Within

/-- The code below the tree is that of some other trees. -/
structure HoldsIn (t : ParseTree) (us : List ParseTree) : Prop where
  all : (t.operands.flatMap held).Subperm (us.flatMap held)
  once : (us.flatMap code).Subperm (t.children.flatMap code)

/-- Among the children, code stands only where the test says so, annotations apart. -/
def OnlyIn (t : ParseTree) (p : ParseTree → Bool) : Prop :=
  ∀ c ∈ t.operands, p c = false → c.held = []

namespace HoldsIn

variable {t : ParseTree} {us vs : List ParseTree}

theorem covered (h : t.HoldsIn t.sources) : t.Covered :=
  ⟨h.all, h.once⟩

theorem trans (h : t.HoldsIn us) (k : Within us vs) : t.HoldsIn vs :=
  ⟨h.all.trans k.all, k.once.trans h.once⟩

theorem perm (h : t.HoldsIn us) (k : us.Perm vs) : t.HoldsIn vs :=
  h.trans ⟨(k.flatMap_right held).subperm, (k.symm.flatMap_right code).subperm⟩

theorem within (h : t.HoldsIn us) (plain : t.holdsCode = false) : Within [t] us := by
  constructor
  · rw [List.flatMap_singleton, held_eq, plain]
    exact h.all
  · rw [List.flatMap_singleton, code_eq, plain]
    exact h.once

end HoldsIn

theorem onlyIn_iff {t : ParseTree} {p : ParseTree → Bool} :
    t.OnlyIn p ↔ (t.operands.all fun c => p c || c.held.isEmpty) = true := by
  simp only [OnlyIn, List.all_eq_true, Bool.or_eq_true, List.isEmpty_iff]
  exact forall₂_congr fun c _ => by cases p c <;> simp

instance (t : ParseTree) (p : ParseTree → Bool) : Decidable (t.OnlyIn p) :=
  decidable_of_iff _ onlyIn_iff.symm

theorem OnlyIn.holdsIn {t : ParseTree} {p : ParseTree → Bool} (h : t.OnlyIn p) :
    t.HoldsIn (t.children.filter p) where
  all := by
    rw [← flatMap_filter_of_nil h]
    have below : t.operands.Sublist t.children := List.filter_sublist.trans List.filter_sublist
    exact ((below.filter p).flatMap held).subperm
  once := (List.filter_sublist.flatMap code).subperm

/-- Code that stands in children of several sorts, sort by sort. -/
theorem OnlyIn.holdsIn_each {t : ParseTree} {ps : List (ParseTree → Bool)}
    (h : t.OnlyIn fun c => ps.any (· c))
    (apart : ps.Pairwise fun p q => ∀ c ∈ t.children, p c = true → q c = false) :
    t.HoldsIn (ps.flatMap t.children.filter) :=
  h.holdsIn.perm (filter_any_perm apart)

/-! ## Children of a sort -/

def fills (name : String) (c : ParseTree) : Bool :=
  c.field == some name

/-- A named child of a type. -/
def isNamed (type : String) (c : ParseTree) : Bool :=
  c.named && c.type == type

/-- There is at most one child of the sort. -/
def Lone (t : ParseTree) (p : ParseTree → Bool) : Prop :=
  (t.children.filter p).length ≤ 1

instance (t : ParseTree) (p : ParseTree → Bool) : Decidable (t.Lone p) :=
  inferInstanceAs (Decidable (_ ≤ _))

theorem head?_toList_of_length_le {α : Type} {xs : List α} (h : xs.length ≤ 1) :
    xs.head?.toList = xs := by
  rcases xs with _ | ⟨x, _ | _⟩
  · rfl
  · rfl
  · simp at h

theorem getLast?_toList_of_length_le {α : Type} {xs : List α} (h : xs.length ≤ 1) :
    xs.getLast?.toList = xs := by
  rcases xs with _ | ⟨x, _ | _⟩
  · rfl
  · rfl
  · simp at h

theorem fieldTree_of_lone {t : ParseTree} {name : String} (h : t.Lone (fills name)) :
    t.fieldTree name = t.children.filter (fills name) := by
  rw [fieldTree, field?]
  show (t.children.find? (fills name)).toList = _
  rw [← List.head?_filter, head?_toList_of_length_le h]

theorem namedOfType_eq (t : ParseTree) (type : String) :
    t.namedChildren.filter (·.type == type) = t.children.filter (isNamed type) := by
  rw [namedChildren, List.filter_filter]
  exact List.filter_congr fun c _ => Bool.and_comm ..

theorem namedOfType_of_lone {t : ParseTree} {type : String} (h : t.Lone (isNamed type)) :
    (t.namedChildren.find? (·.type == type)).toList = t.children.filter (isNamed type) := by
  rw [← List.head?_filter, namedOfType_eq, head?_toList_of_length_le h]

theorem apart_fills {names : List String} (distinct : names.Nodup) (ts : List ParseTree) :
    (names.map fills).Pairwise fun p q => ∀ c ∈ ts, p c = true → q c = false := by
  rw [List.pairwise_map]
  refine distinct.imp fun {a b} ne c _ ha => ?_
  simp only [fills, beq_iff_eq, beq_eq_false_iff_ne] at ha ⊢
  rw [ha]
  exact fun h => ne (Option.some.inj h)

/-- Code that stands in fields, each of which is filled once. -/
theorem OnlyIn.holdsIn_fields {t : ParseTree} {names : List String} (distinct : names.Nodup)
    (lone : ∀ name ∈ names, t.Lone (fills name))
    (h : t.OnlyIn fun c => names.any (fills · c)) : t.HoldsIn (names.flatMap t.fieldTree) := by
  have each : t.HoldsIn ((names.map fills).flatMap t.children.filter) := by
    refine OnlyIn.holdsIn_each ?_ (apart_fills distinct _)
    simpa only [List.any_map, Function.comp_def] using h
  rw [List.flatMap_map] at each
  rwa [List.flatMap_congr fun name hname => fieldTree_of_lone (lone name hname)]

/-! ## Trees that are read by what is in them -/

/-- The tree is no code itself, and below it code stands only in the children of a sort. -/
structure Passes (b : ParseTree) (p : ParseTree → Bool) : Prop where
  plain : b.holdsCode = false
  only : b.OnlyIn p

instance (b : ParseTree) (p : ParseTree → Bool) : Decidable (b.Passes p) :=
  decidable_of_iff (b.holdsCode = false ∧ b.OnlyIn p)
    ⟨fun h => ⟨h.1, h.2⟩, fun h => ⟨h.plain, h.only⟩⟩

theorem Passes.within {b : ParseTree} {p : ParseTree → Bool} (h : b.Passes p) :
    Within [b] (b.children.filter p) :=
  h.only.holdsIn.within h.plain

/-- A list of arguments, a class body and the like, with no code in its comments. -/
def IsList (b : ParseTree) : Prop :=
  b.Passes fun c => !c.isComment && c.named

/-- A block or the body of a constructor, with no code in its comments and braces. -/
def IsBlock (b : ParseTree) : Prop :=
  b.Passes (isStatementTree ["\x7b", "\x7d"])

/-- A variable or a resource, with code in its value only. -/
structure IsVariable (b : ParseTree) : Prop extends b.Passes (fills "value") where
  lone : b.Lone (fills "value")

instance (b : ParseTree) : Decidable b.IsBlock :=
  inferInstanceAs (Decidable (b.Passes _))

theorem parts_eq_filter (b : ParseTree) :
    b.parts.map (·.tree) = b.children.filter fun c => !c.isComment && c.named := by
  rw [parts_eq, namedChildren, List.filter_filter]

theorem IsList.within {b : ParseTree} (h : b.IsList) : Within [b] (b.parts.map (·.tree)) := by
  rw [parts_eq_filter]
  exact Passes.within h

theorem IsBlock.within {b : ParseTree} (h : b.IsBlock) : Within [b] b.blockTrees :=
  Passes.within h

theorem IsVariable.within {b : ParseTree} (h : b.IsVariable) :
    Within [b] (b.fieldTree "value") := by
  rw [fieldTree_of_lone h.lone]
  exact h.toPasses.within

theorem argumentTrees_eq (t : ParseTree) :
    t.argumentTrees = (t.fieldTree "arguments").flatMap fun l => l.parts.map (·.tree) := by
  rw [argumentTrees, fieldTree]
  cases t.field? "arguments" <;> simp

theorem memberTrees_eq (t : ParseTree) :
    t.memberTrees = (t.fieldTree "body").flatMap fun b => b.parts.map (·.tree) := by
  rw [memberTrees, fieldTree]
  cases t.field? "body" <;> simp

theorem resourceTrees_eq (t : ParseTree) :
    t.resourceTrees = (t.fieldTree "resources").flatMap fun l => l.parts.map (·.tree) := by
  rw [resourceTrees, fieldTree]
  cases t.field? "resources" <;> simp

/-! ## Parts of a shape -/

/-- A group or a rule of a switch, or a comment between them. -/
inductive IsSwitchPart (c : ParseTree) : Prop where
  | group (type : c.type = "switch_block_statement_group")
      (passes : c.Passes fun d => isNamed "switch_label" d || isStatementTree [":", "->"] d)
      (labels : ∀ d ∈ c.children.filter (isNamed "switch_label"), d.IsList)
      (some : c.children.filter (isNamed "switch_label") ≠ [])
  | rule (type : c.type = "switch_rule")
      (passes : c.Passes fun d => isNamed "switch_label" d || isStatementTree [":", "->"] d)
      (labels : ∀ d ∈ c.children.filter (isNamed "switch_label"), d.IsList)
      (lone : c.Lone (isNamed "switch_label"))
  | other (type : c.type ∉ ["switch_block_statement_group", "switch_rule"]) (none : c.held = [])

/-- The statements of a part of a switch stand behind its labels. -/
theorem within_labels {c : ParseTree}
    (passes : c.Passes fun d => isNamed "switch_label" d || isStatementTree [":", "->"] d)
    (labels : ∀ d ∈ c.children.filter (isNamed "switch_label"), d.IsList) :
    Within [c] (((c.children.filter (isNamed "switch_label")).flatMap fun label =>
      label.parts.map (·.tree)) ++ c.entryTrees) := by
  have each : c.HoldsIn ([isNamed "switch_label", isStatementTree [":", "->"]].flatMap
      c.children.filter) := by
    refine OnlyIn.holdsIn_each (by simpa using passes.only) ?_
    rw [List.pairwise_pair]
    intro d _ label
    simp only [isNamed, Bool.and_eq_true, beq_iff_eq] at label
    simp [isStatementTree, label.2]
  have both := each.within passes.plain
  simp only [List.flatMap_cons, List.flatMap_nil, List.append_nil] at both
  exact both.trans ((Within.flatMap fun d hd => (labels d hd).within).append (.refl _))

theorem IsSwitchPart.within {c : ParseTree} (h : c.IsSwitchPart) : Within [c] c.partsOfEntries := by
  cases h with
  | group type passes labels some =>
    have within := within_labels passes labels
    simpa only [partsOfEntries, type, namedOfType_eq, List.isEmpty_iff, if_neg some] using within
  | rule type passes labels lone =>
    have within := within_labels passes labels
    simpa only [partsOfEntries, type, namedOfType_eq, head?_toList_of_length_le lone] using within
  | other type none =>
    have nothing : c.partsOfEntries = [] := by
      unfold partsOfEntries
      split <;> simp_all
    rw [nothing]
    constructor
    · simp [none]
    · exact List.nil_subperm

/-- A constant of an enum, with code in its arguments and its members only. -/
structure IsConstant (c : ParseTree) : Prop
    extends c.Passes (fun d => ["arguments", "body"].any (fills · d)) where
  lone : ∀ name ∈ ["arguments", "body"], c.Lone (fills name)
  lists : ∀ name ∈ ["arguments", "body"], ∀ l ∈ c.fieldTree name, l.IsList

theorem IsConstant.within {c : ParseTree} (h : c.IsConstant) : Within [c] c.constantTrees := by
  have fields := (OnlyIn.holdsIn_fields (by decide) h.lone h.only).within h.plain
  simp only [List.flatMap_cons, List.flatMap_nil, List.append_nil] at fields
  rw [constantTrees, argumentTrees_eq, memberTrees_eq]
  refine fields.trans (.append (.flatMap fun l hl => ?_) (.flatMap fun l hl => ?_))
  · exact (h.lists "arguments" (by simp) l hl).within
  · exact (h.lists "body" (by simp) l hl).within

/-- The body of an enum: constants, and declarations behind them. -/
structure IsEnumBody (b : ParseTree) : Prop
    extends b.Passes (fun c => isNamed "enum_constant" c || isNamed "enum_body_declarations" c)
    where
  constants : ∀ c ∈ b.children.filter (isNamed "enum_constant"), c.IsConstant
  declarations : ∀ c ∈ b.children.filter (isNamed "enum_body_declarations"), c.IsList

theorem IsEnumBody.within {b : ParseTree} (h : b.IsEnumBody) :
    Within [b] ((b.children.filter (isNamed "enum_constant")).flatMap constantTrees ++
      (b.children.filter (isNamed "enum_body_declarations")).flatMap fun c =>
        c.parts.map (·.tree)) := by
  have each : b.HoldsIn ([isNamed "enum_constant", isNamed "enum_body_declarations"].flatMap
      b.children.filter) := by
    refine OnlyIn.holdsIn_each (by simpa using h.only) ?_
    rw [List.pairwise_pair]
    intro c _ constant
    simp only [isNamed, Bool.and_eq_true, beq_iff_eq] at constant
    simp [isNamed, constant.2]
  have both := each.within h.plain
  simp only [List.flatMap_cons, List.flatMap_nil, List.append_nil] at both
  exact both.trans (.append (.flatMap fun c hc => (h.constants c hc).within)
    (.flatMap fun c hc => (h.declarations c hc).within))

/-- Code that stands in the block that fills the body, as of a method. -/
theorem OnlyIn.holdsIn_body {t : ParseTree} (only : t.OnlyIn (fills "body"))
    (lone : t.Lone (fills "body")) (blocks : ∀ b ∈ t.fieldTree "body", b.IsBlock) :
    t.HoldsIn t.bodyStatements := by
  have body := only.holdsIn
  rw [← fieldTree_of_lone lone] at body
  exact body.trans (.flatMap fun b hb => (blocks b hb).within)

/-- Code that stands in the only block, as of a static initializer. -/
theorem OnlyIn.holdsIn_block {t : ParseTree} (only : t.OnlyIn (isNamed "block"))
    (lone : t.Lone (isNamed "block")) (blocks : ∀ b ∈ t.children, isNamed "block" b → b.IsBlock) :
    t.HoldsIn t.blockStatements := by
  rw [blockStatements, namedOfType_of_lone lone]
  refine only.holdsIn.trans (.flatMap fun b hb => ?_)
  obtain ⟨child, block⟩ := List.mem_filter.1 hb
  exact (blocks b child block).within

/-- A catch clause, with code in its block only. -/
structure IsCatch (c : ParseTree) : Prop extends c.Passes (fills "body") where
  lone : c.Lone (fills "body")
  blocks : ∀ b ∈ c.fieldTree "body", b.IsBlock

/-- A finally clause, with code in its block only. -/
structure IsFinally (c : ParseTree) : Prop extends c.Passes (isNamed "block") where
  lone : c.Lone (isNamed "block")
  blocks : ∀ b ∈ c.children, isNamed "block" b → b.IsBlock

theorem IsCatch.within {c : ParseTree} (h : c.IsCatch) : Within [c] c.bodyStatements :=
  (h.only.holdsIn_body h.lone h.blocks).within h.plain

theorem IsFinally.within {c : ParseTree} (h : c.IsFinally) : Within [c] c.blockStatements :=
  (h.only.holdsIn_block h.lone h.blocks).within h.plain

theorem withinResources {l : ParseTree}
    (h : l.IsList ∧ ∀ u ∈ l.parts.map (·.tree), u.IsVariable) :
    Within [l] ((l.parts.map (·.tree)).flatMap (·.fieldTree "value")) :=
  h.1.within.trans (.flatMap fun u hu => (h.2 u hu).within)

/-! ## Shapes -/

/-- The types of trees that are read by fields, with the fields. -/
def fieldForms : List (String × List String) :=
  [("if_statement", ["condition", "consequence", "alternative"]),
    ("while_statement", ["condition", "body"]), ("do_statement", ["body", "condition"]),
    ("enhanced_for_statement", ["value", "body"])]

/-- The types of trees of which the first few parts are read, with their number. -/
def leadingForms : List (String × Nat) :=
  [("expression_statement", 1), ("yield_statement", 1), ("throw_statement", 1),
    ("return_statement", 1), ("assert_statement", 2)]

/-- The shapes that grammars give to trees. Code may stand in the parts that a shape names, and the
parts of which there is to be one are no more than one. -/
inductive Shaped (t : ParseTree) : Prop where
  | plain (type : t.type ∉ partwise)
  | fields {names : List String} (form : (t.type, names) ∈ fieldForms)
      (lone : ∀ name ∈ names, t.Lone (fills name))
      (only : t.OnlyIn fun c => names.any (fills · c))
  | leading {count : Nat} (form : (t.type, count) ∈ leadingForms) (few : t.parts.length ≤ count)
      (only : t.OnlyIn fun c => !c.isComment && c.named)
  | leaf (type : t.type ∈ [";", "break_statement", "continue_statement"])
      (only : t.OnlyIn fun _ => false)
  | block (type : t.type = "block") (only : t.OnlyIn (isStatementTree ["\x7b", "\x7d"]))
  | labeled (type : t.type = "labeled_statement") (front : ∀ c ∈ t.children.dropLast, c.held = [])
  | declarators (type : t.type ∈
        ["local_variable_declaration", "field_declaration", "constant_declaration"])
      (only : t.OnlyIn (fills "declarator"))
      (each : ∀ d ∈ t.children.filter (fills "declarator"), d.IsVariable)
  | forLoop (type : t.type = "for_statement")
      (lone : ∀ name ∈ ["condition", "body"], t.Lone (fills name))
      (only : t.OnlyIn fun c => ["init", "condition", "update", "body"].any (fills · c))
  | synchronized {lock body : ParseTree} (type : t.type = "synchronized_statement")
      (parts : t.parts.map (·.tree) = [lock, body]) (field : t.field? "body" = some body)
      (only : t.OnlyIn fun c => !c.isComment && c.named) (block : body.IsBlock)
  | trial (type : t.type ∈ ["try_statement", "try_with_resources_statement"])
      (lone : ∀ p ∈ [fills "resources", fills "body", isNamed "finally_clause"], t.Lone p)
      (apart : ∀ c ∈ t.children, (isNamed "catch_clause" c || isNamed "finally_clause" c) →
        c.field = none)
      (only : t.OnlyIn fun c => [fills "resources", fills "body", isNamed "catch_clause",
        isNamed "finally_clause"].any (· c))
      (resources : ∀ s ∈ t.fieldTree "resources",
        s.IsList ∧ ∀ u ∈ s.parts.map (·.tree), u.IsVariable)
      (blocks : ∀ b ∈ t.fieldTree "body", b.IsBlock)
      (catches : ∀ c ∈ t.children.filter (isNamed "catch_clause"), c.IsCatch)
      (last : ∀ c ∈ t.children.filter (isNamed "finally_clause"), c.IsFinally)
  | lambda (type : t.type = "lambda_expression") (lone : t.Lone (fills "body"))
      (only : t.OnlyIn (fills "body"))
      (block : ∀ b ∈ t.fieldTree "body", b.type = "block" → b.IsBlock)
  | switch (type : t.type = "switch_expression")
      (lone : ∀ name ∈ ["condition", "body"], t.Lone (fills name))
      (only : t.OnlyIn fun c => ["condition", "body"].any (fills · c))
      (plain : ∀ b ∈ t.fieldTree "body", b.holdsCode = false)
      (parts : ∀ b ∈ t.fieldTree "body", ∀ c ∈ b.namedChildren, c.IsSwitchPart)
  | bareCreation (type : t.type = "object_creation_expression")
      (none : t.namedChildren.find? (·.type == "class_body") = none)
  | creation (type : t.type = "object_creation_expression")
      (some : t.children.filter (isNamed "class_body") ≠ [])
      (lone : ∀ p ∈ [fills "arguments", isNamed "class_body"], t.Lone p)
      (apart : ∀ c ∈ t.children, fills "arguments" c → isNamed "class_body" c = false)
      (only : t.OnlyIn fun c => [fills "arguments", isNamed "class_body"].any (· c))
      (arguments : ∀ l ∈ t.fieldTree "arguments", l.IsList)
      (members : ∀ b ∈ t.children.filter (isNamed "class_body"), b.IsList)
  | constructorCall (type : t.type = "explicit_constructor_invocation")
      (lone : t.Lone (fills "arguments")) (only : t.OnlyIn (fills "arguments"))
      (arguments : ∀ l ∈ t.fieldTree "arguments", l.IsList)
  | typeDeclaration (type : t.type ∈ ["class_declaration", "interface_declaration",
        "annotation_type_declaration", "record_declaration"])
      (lone : t.Lone (fills "body")) (only : t.OnlyIn (fills "body"))
      (members : ∀ b ∈ t.fieldTree "body", b.IsList)
  | enum (type : t.type = "enum_declaration") (lone : t.Lone (fills "body"))
      (only : t.OnlyIn (fills "body")) (body : ∀ b ∈ t.fieldTree "body", b.IsEnumBody)
  | callable (type : t.type ∈
        ["method_declaration", "constructor_declaration", "compact_constructor_declaration"])
      (lone : t.Lone (fills "body")) (only : t.OnlyIn (fills "body"))
      (blocks : ∀ b ∈ t.fieldTree "body", b.IsBlock)
  | staticInitializer (type : t.type = "static_initializer") (lone : t.Lone (isNamed "block"))
      (only : t.OnlyIn (isNamed "block"))
      (blocks : ∀ b ∈ t.children, isNamed "block" b → b.IsBlock)
  | annotationMember (type : t.type = "annotation_type_element_declaration")
      (some : t.children.filter (fills "value") ≠ []) (lone : t.Lone (fills "value"))
      (only : t.OnlyIn (fills "value"))
  | bareAnnotationMember (type : t.type = "annotation_type_element_declaration")
      (none : t.defaultValue? = none) (only : t.OnlyIn fun _ => false)

/-- The operands are named, so that nothing else has to be looked at. -/
theorem holdsIn_namedChildren (t : ParseTree) : t.HoldsIn t.namedChildren :=
  OnlyIn.holdsIn fun c hc unnamed => by
    obtain ⟨named, -⟩ := List.mem_filter.1 hc
    rw [(List.mem_filter.1 named).2] at unnamed
    cases unnamed

theorem within_switchBody {b : ParseTree} (plain : b.holdsCode = false)
    (parts : ∀ c ∈ b.namedChildren, c.IsSwitchPart) :
    Within [b] (b.namedChildren.flatMap partsOfEntries) :=
  ((holdsIn_namedChildren b).within plain).trans (.flatMap fun c hc => (parts c hc).within)

theorem OnlyIn.holdsIn_none {t : ParseTree} (only : t.OnlyIn fun _ => false) : t.HoldsIn [] := by
  have nowhere := only.holdsIn
  rwa [List.filter_false] at nowhere

theorem OnlyIn.holdsIn_parts {t : ParseTree} (only : t.OnlyIn fun c => !c.isComment && c.named) :
    t.HoldsIn (t.parts.map (·.tree)) := by
  rw [parts_eq_filter]
  exact only.holdsIn

theorem holdsIn_last {t : ParseTree} (front : ∀ c ∈ t.children.dropLast, c.held = []) :
    t.HoldsIn t.children.getLast?.toList := by
  have split : t.children.dropLast ++ t.children.getLast?.toList = t.children := by
    rcases t.children.eq_nil_or_concat with none | ⟨front, last, some⟩
    · rw [none]
      rfl
    · simp [some]
  have nothing : t.children.dropLast.flatMap held = [] := List.flatMap_eq_nil_iff.2 front
  constructor
  · have below : t.operands.Sublist t.children := List.filter_sublist.trans List.filter_sublist
    have inside := (below.flatMap held).subperm
    rwa [← split, List.flatMap_append, nothing, List.nil_append] at inside
  · conv_rhs => rw [← split, List.flatMap_append]
    exact (List.sublist_append_right ..).subperm

theorem holdsIn_for {t : ParseTree} (lone : ∀ name ∈ ["condition", "body"], t.Lone (fills name))
    (only : t.OnlyIn fun c => ["init", "condition", "update", "body"].any (fills · c)) :
    t.HoldsIn (t.children.filter (fills "init") ++ t.fieldTree "condition" ++
      t.children.filter (fills "update") ++ t.fieldTree "body") := by
  have fields : t.OnlyIn fun c => (["init", "condition", "update", "body"].map fills).any (· c) :=
    only
  have each := fields.holdsIn_each (apart_fills (by decide) _)
  rw [fieldTree_of_lone (lone "condition" (by simp)), fieldTree_of_lone (lone "body" (by simp))]
  simpa using each

/-- The parts of a try statement in the order in which they are read. -/
theorem holdsIn_try {t : ParseTree}
    (lone : ∀ p ∈ [fills "resources", fills "body", isNamed "finally_clause"], t.Lone p)
    (apart : ∀ c ∈ t.children, (isNamed "catch_clause" c || isNamed "finally_clause" c) →
      c.field = none)
    (only : t.OnlyIn fun c => [fills "resources", fills "body", isNamed "catch_clause",
      isNamed "finally_clause"].any (· c)) :
    t.HoldsIn (t.fieldTree "resources" ++ t.fieldTree "body" ++
      t.children.filter (isNamed "catch_clause") ++
      t.children.filter (isNamed "finally_clause")) := by
  have clause {name : String} : ∀ c ∈ t.children, fills name c = true →
      isNamed "catch_clause" c = false ∧ isNamed "finally_clause" c = false := by
    intro c hc field
    simp only [fills, beq_iff_eq] at field
    by_contra some
    rw [apart c hc (by grind)] at field
    cases field
  have kinds : ∀ c ∈ t.children, isNamed "catch_clause" c = true →
      isNamed "finally_clause" c = false := by
    intro c _ catch'
    simp only [isNamed, Bool.and_eq_true, beq_iff_eq] at catch'
    simp [isNamed, catch'.2]
  have fields : ∀ c ∈ t.children, fills "resources" c = true → fills "body" c = false := by
    intro c _ field
    simp only [fills, beq_iff_eq] at field
    simp [fills, field]
  have each := only.holdsIn_each (by
    simp only [List.pairwise_cons, List.forall_mem_cons, List.not_mem_nil, false_implies,
      implies_true, List.Pairwise.nil, and_true]
    exact ⟨⟨fields, fun c hc h => (clause c hc h).1, fun c hc h => (clause c hc h).2⟩,
      ⟨fun c hc h => (clause c hc h).1, fun c hc h => (clause c hc h).2⟩, kinds⟩)
  rw [fieldTree_of_lone (lone _ (by simp)), fieldTree_of_lone (lone _ (by simp))]
  simpa using each

theorem holdsIn_creation {t : ParseTree}
    (lone : ∀ p ∈ [fills "arguments", isNamed "class_body"], t.Lone p)
    (apart : ∀ c ∈ t.children, fills "arguments" c → isNamed "class_body" c = false)
    (only : t.OnlyIn fun c => [fills "arguments", isNamed "class_body"].any (· c)) :
    t.HoldsIn (t.fieldTree "arguments" ++ t.children.filter (isNamed "class_body")) := by
  have each := only.holdsIn_each (List.pairwise_pair.2 apart)
  rw [fieldTree_of_lone (lone _ (List.mem_cons_self ..))]
  simpa using each

theorem holdsIn_fieldTree {t : ParseTree} {name : String} (lone : t.Lone (fills name))
    (only : t.OnlyIn (fills name)) : t.HoldsIn (t.fieldTree name) := by
  rw [fieldTree_of_lone lone]
  exact only.holdsIn

theorem enumBodyTrees_eq (t : ParseTree) (type : String) : t.enumBodyTrees type =
    (t.fieldTree "body").flatMap fun b => b.children.filter (isNamed type) := by
  rw [enumBodyTrees, fieldTree]
  cases t.field? "body" with
  | none => rfl
  | some b =>
    simp only [Option.map_some, Option.getD_some, Option.toList_some, List.flatMap_singleton,
      namedOfType_eq]

/-! ## The sources of a tree of a shape -/

section Sources

variable {t : ParseTree}

theorem holdsIn_sources_fields {names : List String} (form : (t.type, names) ∈ fieldForms)
    (lone : ∀ name ∈ names, t.Lone (fills name))
    (only : t.OnlyIn fun c => names.any (fills · c)) : t.HoldsIn t.sources := by
  simp only [fieldForms, List.mem_cons, Prod.mk.injEq, List.not_mem_nil, or_false] at form
  rcases form with ⟨type, rfl⟩ | ⟨type, rfl⟩ | ⟨type, rfl⟩ | ⟨type, rfl⟩
  all_goals
    have fields := OnlyIn.holdsIn_fields (by decide) lone only
    simpa [sources, type] using fields

theorem holdsIn_sources_leading {count : Nat} (form : (t.type, count) ∈ leadingForms)
    (few : t.parts.length ≤ count) (only : t.OnlyIn fun c => !c.isComment && c.named) :
    t.HoldsIn t.sources := by
  have parts := only.holdsIn_parts
  rw [← List.length_map (·.tree)] at few
  simp only [leadingForms, List.mem_cons, Prod.mk.injEq, List.not_mem_nil, or_false] at form
  rcases form with ⟨type, rfl⟩ | ⟨type, rfl⟩ | ⟨type, rfl⟩ | ⟨type, rfl⟩ | ⟨type, rfl⟩
  case inr.inr.inr.inr =>
    simpa only [sources, type, List.take_of_length_le few] using parts
  all_goals simpa only [sources, type, head?_toList_of_length_le few] using parts

theorem holdsIn_sources_synchronized {lock body : ParseTree}
    (type : t.type = "synchronized_statement") (parts : t.parts.map (·.tree) = [lock, body])
    (field : t.field? "body" = some body) (only : t.OnlyIn fun c => !c.isComment && c.named)
    (block : body.IsBlock) : t.HoldsIn t.sources := by
  have both := only.holdsIn_parts
  rw [parts] at both
  have inside := both.trans (.append (.refl [_]) block.within)
  simpa [sources, type, parts, bodyStatements, fieldTree, field] using inside

theorem holdsIn_sources_try
    (type : t.type ∈ ["try_statement", "try_with_resources_statement"])
    (lone : t.Lone (isNamed "finally_clause"))
    (parts : t.HoldsIn (t.fieldTree "resources" ++ t.fieldTree "body" ++
      t.children.filter (isNamed "catch_clause") ++ t.children.filter (isNamed "finally_clause")))
    (resources : ∀ s ∈ t.fieldTree "resources",
      s.IsList ∧ ∀ u ∈ s.parts.map (·.tree), u.IsVariable)
    (blocks : ∀ b ∈ t.fieldTree "body", b.IsBlock)
    (catches : ∀ c ∈ t.children.filter (isNamed "catch_clause"), c.IsCatch)
    (last : ∀ c ∈ t.children.filter (isNamed "finally_clause"), c.IsFinally) :
    t.HoldsIn t.sources := by
  have inside := parts.trans
    ((((Within.flatMap fun l hl => withinResources (resources l hl)).append
      (.flatMap fun b hb => (blocks b hb).within)).append
      (.flatMap fun c hc => (catches c hc).within)).append
      (.flatMap fun c hc => (last c hc).within))
  have named (type : String) : t.namedChildren.filter (·.type == type) =
      t.children.filter (isNamed type) := namedOfType_eq t type
  have final := getLast?_toList_of_length_le lone
  simp only [List.mem_cons, List.not_mem_nil, or_false] at type
  rcases type with type | type
  all_goals
    simpa only [sources, type, resourceTrees_eq, List.flatMap_assoc, bodyStatements, named,
      final] using inside

theorem holdsIn_sources_creation (type : t.type = "object_creation_expression")
    (some : t.children.filter (isNamed "class_body") ≠ []) (lone : t.Lone (isNamed "class_body"))
    (parts : t.HoldsIn (t.fieldTree "arguments" ++ t.children.filter (isNamed "class_body")))
    (arguments : ∀ l ∈ t.fieldTree "arguments", l.IsList)
    (members : ∀ b ∈ t.children.filter (isNamed "class_body"), b.IsList) :
    t.HoldsIn t.sources := by
  have inside := parts.trans (.append (.flatMap fun l hl => (arguments l hl).within)
    (.flatMap fun b hb => (members b hb).within))
  rw [← namedOfType_of_lone lone] at inside some
  simp only [sources, type, argumentTrees_eq]
  cases found : t.namedChildren.find? (·.type == "class_body") with
  | none => exact absurd (by rw [found]; rfl) some
  | some b => simpa [found] using inside

theorem holdsIn_sources_enum (type : t.type = "enum_declaration") (lone : t.Lone (fills "body"))
    (only : t.OnlyIn (fills "body")) (body : ∀ b ∈ t.fieldTree "body", b.IsEnumBody) :
    t.HoldsIn t.sources := by
  have inside := (holdsIn_fieldTree lone only).trans (.flatMap fun b hb => (body b hb).within)
  simp only [sources, type, enumBodyTrees_eq]
  rw [fieldTree] at inside ⊢
  cases found : t.field? "body" with
  | none => simpa [found] using inside
  | some b => simpa [found] using inside

theorem holdsIn_sources_annotationMember
    (type : t.type = "annotation_type_element_declaration")
    (some : t.children.filter (fills "value") ≠ []) (lone : t.Lone (fills "value"))
    (only : t.OnlyIn (fills "value")) : t.HoldsIn t.sources := by
  have value := holdsIn_fieldTree lone only
  have default : (t.defaultValue?.map (·.tree)).toList = t.fieldTree "value" := by
    rw [← fieldTree_of_lone lone] at some
    rw [fieldTree, ← field?_eq] at some ⊢
    rw [defaultValue?]
    cases found : t.fieldBelow? "value" with
    | none => exact absurd (by rw [found]; rfl) some
    | some c => rfl
  simpa only [sources, type, default] using value

/-- What a shape names are the trees that the reader goes on to. -/
theorem Shaped.holdsIn_sources (h : t.Shaped) : t.HoldsIn t.sources := by
  cases h with
  | plain type => exact ⟨(covered_of_type type).all, (covered_of_type type).once⟩
  | fields form lone only => exact holdsIn_sources_fields form lone only
  | leading form few only => exact holdsIn_sources_leading form few only
  | leaf type only =>
    simp only [List.mem_cons, List.not_mem_nil, or_false] at type
    rcases type with type | type | type
    all_goals simpa only [sources, type] using only.holdsIn_none
  | block type only =>
    simp only [sources, type]
    exact only.holdsIn
  | labeled type front => simpa only [sources, type] using holdsIn_last front
  | declarators type only each =>
    have values := only.holdsIn.trans (.flatMap fun d hd => (each d hd).within)
    simp only [List.mem_cons, List.not_mem_nil, or_false] at type
    rcases type with type | type | type
    all_goals
      simp only [sources, type, variableValues, fieldsBelow_eq]
      exact values
  | forLoop type lone only =>
    simp only [sources, type, fieldsBelow_eq]
    exact holdsIn_for lone only
  | «synchronized» type parts field only block =>
    exact holdsIn_sources_synchronized type parts field only block
  | trial type lone apart only resources blocks catches last =>
    exact holdsIn_sources_try type (lone _ (by simp)) (holdsIn_try lone apart only) resources
      blocks catches last
  | lambda type lone only block =>
    simp only [sources, type]
    refine (holdsIn_fieldTree lone only).trans (.flatMap fun b hb => ?_)
    split
    · exact (block b hb (beq_iff_eq.1 ‹_›)).within
    · exact .refl _
  | switch type lone only plain parts =>
    have fields := OnlyIn.holdsIn_fields (by decide) lone only
    simp only [List.flatMap_cons, List.flatMap_nil, List.append_nil] at fields
    simp only [sources, type]
    exact fields.trans (.append (.refl _)
      (.flatMap fun b hb => within_switchBody (plain b hb) (parts b hb)))
  | bareCreation type none =>
    simp only [sources, type, none]
    exact holdsIn_namedChildren t
  | creation type some lone apart only arguments members =>
    exact holdsIn_sources_creation type some (lone _ (by simp)) (holdsIn_creation lone apart only)
      arguments members
  | constructorCall type lone only arguments =>
    simp only [sources, type, argumentTrees_eq]
    exact (holdsIn_fieldTree lone only).trans (.flatMap fun l hl => (arguments l hl).within)
  | typeDeclaration type lone only members =>
    have inside := (holdsIn_fieldTree lone only).trans (.flatMap fun b hb => (members b hb).within)
    simp only [List.mem_cons, List.not_mem_nil, or_false] at type
    rcases type with type | type | type | type
    all_goals simpa only [sources, type, memberTrees_eq] using inside
  | enum type lone only body => exact holdsIn_sources_enum type lone only body
  | callable type lone only blocks =>
    simp only [List.mem_cons, List.not_mem_nil, or_false] at type
    rcases type with type | type | type
    all_goals simpa only [sources, type] using only.holdsIn_body lone blocks
  | staticInitializer type lone only blocks =>
    simpa only [sources, type] using only.holdsIn_block lone blocks
  | annotationMember type some lone only =>
    exact holdsIn_sources_annotationMember type some lone only
  | bareAnnotationMember type none only =>
    simp only [sources, type, none]
    exact only.holdsIn_none

theorem Shaped.covered (h : t.Shaped) : t.Covered :=
  h.holdsIn_sources.covered

end Sources

/-- Trees that are not read by their parts need no attention. -/
theorem shaped_of_partwise {t : ParseTree}
    (shaped : ∀ u ∈ t.walk.filter (·.type ∈ partwise), u.Shaped) : ∀ u ∈ t.walk, u.Shaped := by
  intro u hu
  by_cases form : u.type ∈ partwise
  · exact shaped u (List.mem_filter.2 ⟨hu, decide_eq_true form⟩)
  · exact .plain form

/-- A tree is covered at every node if every node has one of the shapes. -/
theorem covered_of_shaped {t : ParseTree} (shaped : ∀ u ∈ t.walk, u.Shaped) :
    ∀ u ∈ t.walk, u.Covered :=
  fun u hu => (shaped u hu).covered

end ParseTree

end JavaCensus
