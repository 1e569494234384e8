import JavaCensus.Source.Unit
import Mathlib

/-!
# What trees are read as

A relation between the trees of a source and the nodes they are read as, one rule for each shape of
tree, and the proof that the reader follows it. Facts about what the reader makes of a source are
proved by induction on the relation, not on the reader.
-/
namespace JavaCensus

/-! ## Steps that succeed -/

section Steps

variable {ε α β γ : Type}

theorem bind_eq_ok {x : Except ε α} {f : α → Except ε β} {b : β} :
    (x >>= f) = .ok b ↔ ∃ a, x = .ok a ∧ f a = .ok b := by
  cases x with
  | error e =>
    constructor
    · intro h
      cases h
    · rintro ⟨a, h, -⟩
      cases h
  | ok a =>
    constructor
    · exact fun h => ⟨a, rfl, h⟩
    · rintro ⟨_, h, k⟩
      cases h
      exact k

theorem pure_eq_ok {a b : α} : (pure a : Except ε α) = .ok b ↔ a = b := by
  show (Except.ok a : Except ε α) = .ok b ↔ a = b
  rw [Except.ok.injEq]

theorem map_eq_ok {f : α → β} {x : Except ε α} {b : β} :
    (f <$> x) = .ok b ↔ ∃ a, x = .ok a ∧ f a = b := by
  rw [map_eq_pure_bind, bind_eq_ok]
  simp only [pure_eq_ok]

theorem toOption_eq_some {x : Except ε α} {a : α} : x.toOption = some a ↔ x = .ok a := by
  cases x <;> simp [Except.toOption]

theorem required_eq_ok {o : Option α} {a : α} : required o = .ok a ↔ o = some a := by
  cases o <;> simp [required]

theorem found_eq_ok {o : Option α} {a : α} : found o = .ok a ↔ o = some a := by
  cases o <;> simp [found]

theorem placed_eq_ok {o : Option α} {a : α} : placed o = .ok a ↔ o = some a := by
  cases o <;> simp [placed]

theorem exists_mapM_eq_ok {f : α → Except ε β} {xs : List α}
    (h : ∀ x ∈ xs, ∃ y, f x = .ok y) :
    ∃ ys, xs.mapM f = .ok ys := by
  induction xs with
  | nil => exact ⟨[], rfl⟩
  | cons x xs ih =>
    obtain ⟨y, hy⟩ := h x (List.mem_cons_self ..)
    obtain ⟨ys, hys⟩ := ih fun z hz => h z (List.mem_cons_of_mem _ hz)
    refine ⟨y :: ys, ?_⟩
    rw [List.mapM_cons, hy, hys]
    rfl

theorem mapM_eq_ok {f : α → Except ε β} {xs : List α} {ys : List β} (h : xs.mapM f = .ok ys) :
    ∃ pairs : List (α × β), pairs.map (·.1) = xs ∧ pairs.map (·.2) = ys ∧
      ∀ p ∈ pairs, f p.1 = .ok p.2 := by
  induction xs generalizing ys with
  | nil =>
    rw [List.mapM_nil, pure_eq_ok] at h
    exact ⟨[], rfl, h, List.forall_mem_nil _⟩
  | cons x xs ih =>
    rw [List.mapM_cons, bind_eq_ok] at h
    obtain ⟨y, hy, h⟩ := h
    obtain ⟨zs, hzs, h⟩ := bind_eq_ok.1 h
    obtain rfl := pure_eq_ok.1 h
    obtain ⟨pairs, rfl, rfl, hpairs⟩ := ih hzs
    refine ⟨(x, y) :: pairs, rfl, rfl, fun p hp => ?_⟩
    rcases List.mem_cons.1 hp with rfl | hp
    · exact hy
    · exact hpairs p hp

/-- Steps that give nothing may be left out. -/
theorem mapM_filter_flatMap {f : α → Except ε β} {p : α → Bool} {g : β → List γ} {xs : List α}
    (nothing : ∀ x ∈ xs, p x = false → ∃ b, f x = .ok b ∧ g b = []) :
    (fun bs => bs.flatMap g) <$> (xs.filter p).mapM f = (fun bs => bs.flatMap g) <$> xs.mapM f := by
  induction xs with
  | nil => rfl
  | cons x xs ih =>
    have ih := ih fun y hy => nothing y (List.mem_cons_of_mem _ hy)
    cases hx : p x with
    | false =>
      obtain ⟨b, hb, hg⟩ := nothing x (List.mem_cons_self ..) hx
      rw [List.filter_cons_of_neg (by simp [hx]), ih, List.mapM_cons, hb]
      cases xs.mapM f with
      | error e => rfl
      | ok bs => exact congrArg Except.ok (by simp [hg])
    | true =>
      rw [List.filter_cons_of_pos hx, List.mapM_cons, List.mapM_cons]
      cases f x with
      | error e => rfl
      | ok b =>
        revert ih
        cases (xs.filter p).mapM f with
        | error e => cases xs.mapM f with
          | error e' => exact fun ih => by cases ih; rfl
          | ok _ => exact fun ih => by cases ih
        | ok bs => cases xs.mapM f with
          | error _ => exact fun ih => by cases ih
          | ok cs =>
            intro ih
            have same : bs.flatMap g = cs.flatMap g := Except.ok.inj ih
            exact congrArg Except.ok (by simp [same])

/-- What is read of a source is its unit with the comments of the source placed in it. -/
theorem readUnit_eq_ok {name : String} {level : LanguageLevel} {preview : Bool}
    {source : SourceText} {parse : Parse} {u : ReadUnit} :
    readUnit name level preview source parse = .ok u ↔
      ∃ unit, (Reading.mk name source).unitOf level preview parse = .ok unit ∧
        ⟨unit.place ((Reading.mk name source).comments parse.root),
          sortBy Comment.startsBefore ((Reading.mk name source).comments parse.root)⟩ = u := by
  unfold readUnit
  dsimp only
  rw [bind_eq_ok]
  simp only [pure_eq_ok]

end Steps

namespace ParseTree

theorem field?_eq (t : ParseTree) (name : String) :
    (t.fieldBelow? name).map (·.tree) = t.field? name := by
  unfold fieldBelow? field?
  rw [← map_childrenBelow, List.find?_map]
  rfl

theorem namedChildren_eq (t : ParseTree) : t.namedBelow.map (·.tree) = t.namedChildren := by
  unfold namedBelow namedChildren
  rw [← map_childrenBelow, List.filter_map]
  rfl

/-- The trees that the arguments of a call or an enum constant are read from. -/
def argumentTrees (t : ParseTree) : List ParseTree :=
  match t.field? "arguments" with
  | none => []
  | some list => list.parts.map (·.tree)

def resourceTrees (t : ParseTree) : List ParseTree :=
  match t.field? "resources" with
  | none => []
  | some specification => specification.parts.map (·.tree)

def memberTrees (t : ParseTree) : List ParseTree :=
  match t.field? "body" with
  | none => []
  | some body => body.parts.map (·.tree)

/-- Neither a sign to be skipped nor a comment nor a label of a switch. -/
def isStatementTree (skip : List String) (t : ParseTree) : Bool :=
  !(t.type ∈ skip) && !t.isComment && t.type != "switch_label"

def statementTrees (skip : List String) (t : ParseTree) : List ParseTree :=
  t.children.filter (isStatementTree skip)

theorem statementParts_eq (t : ParseTree) (skip : List String) :
    (t.statementParts skip).map (·.tree) = t.statementTrees skip := by
  rw [statementTrees, ← map_childrenBelow, List.filter_map]
  rfl

/-- The trees that the statements of a block are read from. -/
def blockTrees (t : ParseTree) : List ParseTree :=
  t.statementTrees ["\x7b", "\x7d"]

def entryTrees (t : ParseTree) : List ParseTree :=
  t.statementTrees [":", "->"]

end ParseTree

namespace Reading

/-- In which capacity a tree is read. -/
inductive Role where
  | expression
  | statement
  | block
  | declarator
  | resource
  | catchClause
  | entry
  | type
  | constant
  | member
  deriving DecidableEq, Repr

/-- The sort of type that a tree declares. -/
inductive Declares (r : Reading) (t : ParseTree) : TypeSort → Prop where
  | class (type : t.type = "class_declaration") : Declares r t .class
  | interface (type : t.type = "interface_declaration") : Declares r t .interface
  | annotationType (type : t.type = "annotation_type_declaration") : Declares r t .annotationType
  | record {components : List Parameter} (type : t.type = "record_declaration")
      (reads : r.parameters (t.field? "parameters") = .ok components) :
      Declares r t (.record components)

/-- A tree is read as a node. Lists of trees stand with the nodes they are read as. -/
inductive Reads (r : Reading) : Role → ParseTree → Node → Prop where
  | lambdaBlock {t b : ParseTree} {n : Node} (type : t.type = "lambda_expression")
      (body : t.field? "body" = some b) (form : b.type = "block") (reads : Reads r .block b n) :
      Reads r .expression t (r.node t (.lambda n))
  | lambdaExpression {t b : ParseTree} {n : Node} (type : t.type = "lambda_expression")
      (body : t.field? "body" = some b) (form : b.type ≠ "block")
      (reads : Reads r .expression b n) : Reads r .expression t (r.node t (.lambda n))
  | switchExpression {t c b : ParseTree} {selector : Node} {entries : List (ParseTree × Node)}
      (type : t.type = "switch_expression") (condition : t.field? "condition" = some c)
      (selects : Reads r .expression c selector) (body : t.field? "body" = some b)
      (trees : ∀ e ∈ entries, e.1 ∈ b.namedChildren)
      (reads : ∀ e ∈ entries, Reads r .entry e.1 e.2) :
      Reads r .expression t (r.node t (.switchExpression selector (entries.map (·.2))))
  | creation {t b : ParseTree} {name : String} {arguments members : List (ParseTree × Node)}
      (type : t.type = "object_creation_expression")
      (body : t.namedChildren.find? (·.type == "class_body") = some b)
      (named : r.fieldText t "type" = .ok name)
      (argumentTrees : arguments.map (·.1) = t.argumentTrees)
      (passes : ∀ a ∈ arguments, Reads r .expression a.1 a.2)
      (memberTrees : members.map (·.1) = b.parts.map (·.tree))
      (declares : ∀ m ∈ members, Reads r .member m.1 m.2) :
      Reads r .expression t
        (r.node t (.objectCreation name (arguments.map (·.2)) (some (members.map (·.2)))))
  | plain {t : ParseTree} {nested : List (ParseTree × Node)} (form : t.holdsCode = false)
      (trees : nested.map (·.1) = ParseTree.outermostCode t.namedChildren)
      (reads : ∀ e ∈ nested, Reads r .expression e.1 e.2) :
      Reads r .expression t (r.node t (.plainExpression (nested.map (·.2))))
  | block {t : ParseTree} {statements : List (ParseTree × Node)}
      (trees : statements.map (·.1) = t.blockTrees)
      (reads : ∀ s ∈ statements, Reads r .statement s.1 s.2) :
      Reads r .block t (r.node t (.block (statements.map (·.2))))
  | declarator {t : ParseTree} {name : String} {value : Option (ParseTree × Node)}
      (named : r.fieldText t "name" = .ok name) (tree : value.map (·.1) = t.field? "value")
      (reads : ∀ v ∈ value, Reads r .expression v.1 v.2) :
      Reads r .declarator t (r.node t (.variableDeclarator name (value.map (·.2))))
  | resource {t : ParseTree} {value : Option (ParseTree × Node)}
      (tree : value.map (·.1) = t.field? "value")
      (reads : ∀ v ∈ value, Reads r .expression v.1 v.2) :
      Reads r .resource t
        (r.node t (.resource (r.text ((t.field? "name").getD t)) (value.map (·.2))))
  | catchClause {t b : ParseTree} {parameter : Parameter} {n : Node}
      (body : t.field? "body" = some b) (reads : Reads r .block b n) :
      Reads r .catchClause t (r.node t (.catchClause parameter n))
  | rule {t label : ParseTree} {labels statements : List (ParseTree × Node)}
      (type : t.type = "switch_rule")
      (found : t.namedChildren.find? (·.type == "switch_label") = some label)
      (labelTrees : labels.map (·.1) = label.parts.map (·.tree))
      (selects : ∀ l ∈ labels, Reads r .expression l.1 l.2)
      (trees : statements.map (·.1) = t.entryTrees)
      (reads : ∀ s ∈ statements, Reads r .statement s.1 s.2) :
      Reads r .entry t (.bare (r.source.span t) (.switchEntry (labels.map (·.2))
        (statements.map (·.2)) (label.children.any (·.type == "default"))))
  | groupLabel {t label : ParseTree} {labels : List (ParseTree × Node)}
      (type : t.type = "switch_block_statement_group")
      (among : label ∈ t.namedChildren.filter (·.type == "switch_label"))
      (labelTrees : labels.map (·.1) = label.parts.map (·.tree))
      (selects : ∀ l ∈ labels, Reads r .expression l.1 l.2) :
      Reads r .entry t (.bare (r.source.span label) (.switchEntry (labels.map (·.2)) []
        (label.children.any (·.type == "default"))))
  | lastLabel {t label : ParseTree} {labels statements : List (ParseTree × Node)}
      (type : t.type = "switch_block_statement_group")
      (last : (t.namedChildren.filter (·.type == "switch_label")).getLast? = some label)
      (labelTrees : labels.map (·.1) = label.parts.map (·.tree))
      (selects : ∀ l ∈ labels, Reads r .expression l.1 l.2)
      (trees : statements.map (·.1) = t.entryTrees)
      (reads : ∀ s ∈ statements, Reads r .statement s.1 s.2) :
      Reads r .entry t (.bare ⟨(r.source.span label).start, (r.source.span t).stop⟩
        (.switchEntry (labels.map (·.2)) (statements.map (·.2))
          (label.children.any (·.type == "default"))))
  | localType {t : ParseTree} {n : Node} (form : t.isTypeDeclaration) (reads : Reads r .type t n) :
      Reads r .statement t n
  | localBlock {t : ParseTree} {n : Node} (type : t.type = "block") (reads : Reads r .block t n) :
      Reads r .statement t n
  | emptyStatement {t : ParseTree} (type : t.type = ";") :
      Reads r .statement t (r.node t .emptyStatement)
  | localDeclaration {t : ParseTree} {type : String} {declarators : List (ParseTree × Node)}
      (form : t.type = "local_variable_declaration") (typed : r.fieldText t "type" = .ok type)
      (trees : declarators.map (·.1) = (t.fieldsBelow "declarator").map (·.tree))
      (reads : ∀ d ∈ declarators, Reads r .declarator d.1 d.2) :
      Reads r .statement t (r.node t (.localDeclaration type (declarators.map (·.2))))
  | labeledStatement {t s : ParseTree} {label : String} {n : Node}
      (type : t.type = "labeled_statement") (last : t.children.getLast? = some s)
      (reads : Reads r .statement s n) :
      Reads r .statement t (r.node t (.labeledStatement label n))
  | ifStatement {t c s : ParseTree} {condition consequence : Node}
      {alternative : Option (ParseTree × Node)} (type : t.type = "if_statement")
      (test : t.field? "condition" = some c) (tests : Reads r .expression c condition)
      (first : t.field? "consequence" = some s) (reads : Reads r .statement s consequence)
      (second : alternative.map (·.1) = t.field? "alternative")
      (otherwise : ∀ a ∈ alternative, Reads r .statement a.1 a.2) :
      Reads r .statement t
        (r.node t (.ifStatement condition consequence (alternative.map (·.2))))
  | whileStatement {t c b : ParseTree} {condition body : Node} (type : t.type = "while_statement")
      (test : t.field? "condition" = some c) (tests : Reads r .expression c condition)
      (inner : t.field? "body" = some b) (reads : Reads r .statement b body) :
      Reads r .statement t (r.node t (.whileStatement condition body))
  | doStatement {t c b : ParseTree} {condition body : Node} (type : t.type = "do_statement")
      (inner : t.field? "body" = some b) (reads : Reads r .statement b body)
      (test : t.field? "condition" = some c) (tests : Reads r .expression c condition) :
      Reads r .statement t (r.node t (.doStatement body condition))
  | forStatement {t b : ParseTree} {init update : List (ParseTree × Node)} {body : Node}
      {condition : Option (ParseTree × Node)} (type : t.type = "for_statement")
      (initTrees : init.map (·.1) = (t.fieldsBelow "init").map (·.tree))
      (starts : ∀ i ∈ init, Reads r
        (if i.1.type == "local_variable_declaration" then .statement else .expression) i.1 i.2)
      (inner : t.field? "body" = some b) (reads : Reads r .statement b body)
      (test : condition.map (·.1) = t.field? "condition")
      (tests : ∀ c ∈ condition, Reads r .expression c.1 c.2)
      (updateTrees : update.map (·.1) = (t.fieldsBelow "update").map (·.tree))
      (goesOn : ∀ u ∈ update, Reads r .expression u.1 u.2) :
      Reads r .statement t (r.node t
        (.forStatement (init.map (·.2)) (condition.map (·.2)) (update.map (·.2)) body))
  | forEachStatement {t v b : ParseTree} {parameter : Parameter} {iterable body : Node}
      (type : t.type = "enhanced_for_statement") (value : t.field? "value" = some v)
      (ranges : Reads r .expression v iterable) (inner : t.field? "body" = some b)
      (reads : Reads r .statement b body) :
      Reads r .statement t (r.node t (.forEachStatement parameter iterable body))
  | synchronizedStatement {t l b : ParseTree} {lock body : Node}
      (type : t.type = "synchronized_statement")
      (first : (t.parts.map (·.tree)).head? = some l) (locks : Reads r .expression l lock)
      (inner : t.field? "body" = some b) (reads : Reads r .block b body) :
      Reads r .statement t (r.node t (.synchronizedStatement lock body))
  | tryStatement {t b : ParseTree} {resources catches : List (ParseTree × Node)} {body : Node}
      {last : Option (ParseTree × Node)}
      (type : t.type = "try_statement" ∨ t.type = "try_with_resources_statement")
      (resourceTrees : resources.map (·.1) = t.resourceTrees)
      (opens : ∀ c ∈ resources, Reads r .resource c.1 c.2)
      (inner : t.field? "body" = some b) (reads : Reads r .block b body)
      (catchTrees : catches.map (·.1) = t.namedChildren.filter (·.type == "catch_clause"))
      (handles : ∀ c ∈ catches, Reads r .catchClause c.1 c.2)
      (lastTree : last.map (·.1) =
        (t.namedChildren.filter (·.type == "finally_clause")).getLast?.bind
        (·.namedChildren.find? (·.type == "block")))
      (ends : ∀ l ∈ last, Reads r .block l.1 l.2) :
      Reads r .statement t (r.node t
        (.tryStatement (resources.map (·.2)) body (catches.map (·.2)) (last.map (·.2))))
  | switchStatement {t c b : ParseTree} {selector : Node} {entries : List (ParseTree × Node)}
      (type : t.type = "switch_expression") (condition : t.field? "condition" = some c)
      (selects : Reads r .expression c selector) (body : t.field? "body" = some b)
      (trees : ∀ e ∈ entries, e.1 ∈ b.namedChildren)
      (reads : ∀ e ∈ entries, Reads r .entry e.1 e.2) :
      Reads r .statement t (r.node t (.switchStatement selector (entries.map (·.2))))
  | expressionStatement {t e : ParseTree} {n : Node} (type : t.type = "expression_statement")
      (first : (t.parts.map (·.tree)).head? = some e) (reads : Reads r .expression e n) :
      Reads r .statement t (r.node t (.expressionStatement n))
  | yieldStatement {t e : ParseTree} {n : Node} (type : t.type = "yield_statement")
      (first : (t.parts.map (·.tree)).head? = some e) (reads : Reads r .expression e n) :
      Reads r .statement t (r.node t (.yieldStatement n))
  | throwStatement {t e : ParseTree} {n : Node} (type : t.type = "throw_statement")
      (first : (t.parts.map (·.tree)).head? = some e) (reads : Reads r .expression e n) :
      Reads r .statement t (r.node t (.throwStatement n))
  | breakStatement {t : ParseTree} (type : t.type = "break_statement") :
      Reads r .statement t (r.node t (.breakStatement (r.optionalIdentifier t)))
  | continueStatement {t : ParseTree} (type : t.type = "continue_statement") :
      Reads r .statement t (r.node t (.continueStatement (r.optionalIdentifier t)))
  | returnStatement {t : ParseTree} {value : Option (ParseTree × Node)}
      (type : t.type = "return_statement")
      (tree : value.map (·.1) = (t.parts.map (·.tree)).head?)
      (reads : ∀ v ∈ value, Reads r .expression v.1 v.2) :
      Reads r .statement t (r.node t (.returnStatement (value.map (·.2))))
  | assertStatement {t c : ParseTree} {check : Node} {message : Option (ParseTree × Node)}
      (type : t.type = "assert_statement")
      (first : (t.parts.map (·.tree)).head? = some c) (reads : Reads r .expression c check)
      (second : message.map (·.1) = (t.parts.map (·.tree))[1]?)
      (explains : ∀ m ∈ message, Reads r .expression m.1 m.2) :
      Reads r .statement t (r.node t (.assertStatement check (message.map (·.2))))
  | constructorCall {t : ParseTree} {arguments : List (ParseTree × Node)}
      (type : t.type = "explicit_constructor_invocation")
      (trees : arguments.map (·.1) = t.argumentTrees)
      (reads : ∀ a ∈ arguments, Reads r .expression a.1 a.2) :
      Reads r .statement t (r.node t (.constructorCall
        ((t.field? "constructor").any (·.type == "this")) (arguments.map (·.2)) false))
  | typeDeclaration {t : ParseTree} {sort : TypeSort} {name : String}
      {members : List (ParseTree × Node)} (form : r.Declares t sort)
      (named : r.fieldText t "name" = .ok name) (trees : members.map (·.1) = t.memberTrees)
      (reads : ∀ m ∈ members, Reads r .member m.1 m.2) :
      Reads r .type t (r.node t (.typeDeclaration sort name (modifiers t) (members.map (·.2))))
  | enumDeclaration {t : ParseTree} {name : String} {constants members : List (ParseTree × Node)}
      (type : t.type = "enum_declaration") (named : r.fieldText t "name" = .ok name)
      (constantTrees : constants.map (·.1) =
        (((t.field? "body").map (·.namedChildren)).getD []).filter (·.type == "enum_constant"))
      (lists : ∀ c ∈ constants, Reads r .constant c.1 c.2)
      (memberTrees : members.map (·.1) =
        ((((t.field? "body").map (·.namedChildren)).getD []).filter
          (·.type == "enum_body_declarations")).flatMap fun c => c.parts.map (·.tree))
      (reads : ∀ m ∈ members, Reads r .member m.1 m.2) :
      Reads r .type t (r.node t
        (.enumDeclaration name (modifiers t) (constants.map (·.2)) (members.map (·.2))))
  | enumConstant {t : ParseTree} {name : String} {arguments : List (ParseTree × Node)}
      (named : r.fieldText t "name" = .ok name) (body : t.field? "body" = none)
      (trees : arguments.map (·.1) = t.argumentTrees)
      (reads : ∀ a ∈ arguments, Reads r .expression a.1 a.2) :
      Reads r .constant t (r.node t (.enumConstant name (arguments.map (·.2)) none))
  | bodiedConstant {t b : ParseTree} {name : String} {arguments members : List (ParseTree × Node)}
      (named : r.fieldText t "name" = .ok name) (body : t.field? "body" = some b)
      (trees : arguments.map (·.1) = t.argumentTrees)
      (passes : ∀ a ∈ arguments, Reads r .expression a.1 a.2)
      (memberTrees : members.map (·.1) = b.parts.map (·.tree))
      (reads : ∀ m ∈ members, Reads r .member m.1 m.2) :
      Reads r .constant t
        (r.node t (.enumConstant name (arguments.map (·.2)) (some (members.map (·.2)))))
  | memberType {t : ParseTree} {n : Node} (form : t.isTypeDeclaration) (reads : Reads r .type t n) :
      Reads r .member t n
  | fieldDeclaration {t : ParseTree} {type : String} {declarators : List (ParseTree × Node)}
      (form : t.type = "field_declaration" ∨ t.type = "constant_declaration")
      (typed : r.fieldText t "type" = .ok type)
      (trees : declarators.map (·.1) = (t.fieldsBelow "declarator").map (·.tree))
      (reads : ∀ d ∈ declarators, Reads r .declarator d.1 d.2) :
      Reads r .member t
        (r.node t (.fieldDeclaration type (declarators.map (·.2)) (modifiers t)))
  | method {t : ParseTree} {returnType name : String} {parameters : List Parameter}
      {body : Option (ParseTree × Node)} (type : t.type = "method_declaration")
      (named : r.fieldText t "name" = .ok name) (tree : body.map (·.1) = t.field? "body")
      (reads : ∀ b ∈ body, Reads r .block b.1 b.2) :
      Reads r .member t (r.node t
        (.callable (.method returnType) name parameters (body.map (·.2)) (modifiers t)))
  | constructor {t b : ParseTree} {name : String} {parameters : List Parameter} {n : Node}
      (type : t.type = "constructor_declaration" ∨ t.type = "compact_constructor_declaration")
      (named : r.fieldText t "name" = .ok name) (body : t.field? "body" = some b)
      (reads : Reads r .block b n) :
      Reads r .member t (r.node t (.callable .constructor name parameters (some n) (modifiers t)))
  | staticInitializer {t b : ParseTree} {n : Node} (type : t.type = "static_initializer")
      (body : t.namedChildren.find? (·.type == "block") = some b) (reads : Reads r .block b n) :
      Reads r .member t (r.node t (.initializerBlock n true))
  | instanceInitializer {t : ParseTree} {n : Node} (type : t.type = "block")
      (reads : Reads r .block t n) : Reads r .member t (r.node t (.initializerBlock n false))
  | annotationMember {t : ParseTree} {name type : String} {value : Option (ParseTree × Node)}
      (form : t.type = "annotation_type_element_declaration")
      (named : r.fieldText t "name" = .ok name) (typed : r.fieldText t "type" = .ok type)
      (tree : value.map (·.1) = t.defaultValue?.map (·.tree))
      (reads : ∀ v ∈ value, Reads r .expression v.1 v.2) :
      Reads r .member t
        (r.node t (.annotationMember name type (value.map (·.2)) (modifiers t)))

end Reading

end JavaCensus
