import JavaCensus.Source.Admission

/-!
# From parse trees to syntax trees

Types, members and statements become constructs of their own. Expressions stay plain except where
they can hold code that is counted: lambdas, switch expressions and object creations with a class
body.
-/
namespace JavaCensus

/-- A part that has to be there. -/
def required {α : Type} : Option α → Read α
  | some a => .ok a
  | none => .error (.mishap .absentPart)

/-- A part that has to be found. -/
def found {α : Type} : Option α → Read α
  | some a => .ok a
  | none => .error (.mishap .absentMatch)

/-- A part that has to have a place. -/
def placed {α : Type} : Option α → Read α
  | some a => .ok a
  | none => .error (.mishap .absentPlace)

def typeDeclarationTypes : List String :=
  ["class_declaration", "interface_declaration", "enum_declaration", "annotation_type_declaration",
    "record_declaration"]

namespace ParseTree

def isTypeDeclaration (t : ParseTree) : Bool :=
  t.type ∈ typeDeclarationTypes

/-- What the statements of a block or a switch group are read from. -/
def statementParts (t : ParseTree) (skip : List String) : List t.Below :=
  t.childrenBelow.filter fun c =>
    !(c.tree.type ∈ skip) && !c.tree.isComment && c.tree.type != "switch_label"

/-- The first named child after the word "default" that is no comment. -/
def afterDefault? {t : ParseTree} : List t.Below → Option t.Below
  | [] => none
  | c :: cs =>
    if c.tree.type == "default" then
      cs.find? fun d => d.tree.type != "default" && d.tree.named && !d.tree.isComment
    else afterDefault? cs

/-- The default value of an annotation element. -/
def defaultValue? (t : ParseTree) : Option t.Below :=
  match t.fieldBelow? "value" with
  | some c => some c
  | none => afterDefault? t.childrenBelow

end ParseTree

/-- What the body of an enum is made of. -/
inductive EnumPart where
  | constant (n : Node)
  | members (ns : List Node)

namespace EnumPart

def constant? : EnumPart → Option Node
  | .constant n => some n
  | .members _ => none

def memberList : EnumPart → List Node
  | .constant _ => []
  | .members ns => ns

end EnumPart

/-- What follows the head and the body of a try statement. -/
inductive TryPart where
  | catch (n : Node)
  | last (n : Node)

namespace TryPart

def catch? : TryPart → Option Node
  | .catch n => some n
  | .last _ => none

def last? : TryPart → Option Node
  | .catch _ => none
  | .last n => some n

end TryPart

namespace Reading

variable (r : Reading)

open ParseTree

mutual

def expression (t : ParseTree) : Read Node :=
  match t.type with
  | "lambda_expression" => do
    let body ← required (t.fieldBelow? "body")
    if body.tree.type == "block" then return r.node t (.lambda (← block body.tree))
    else return r.node t (.lambda (← expression body.tree))
  | "switch_expression" => do
    let condition ← required (t.fieldBelow? "condition")
    let selector ← expression condition.tree
    let body ← required (t.fieldBelow? "body")
    return r.node t (.switchExpression selector (← switchEntries body.tree))
  | "object_creation_expression" =>
    match t.namedOfType? "class_body" with
    | some body => do
      let type ← r.fieldText t "type"
      let arguments ← arguments t
      return r.node t (.objectCreation type arguments (some (← members [] body.tree)))
    | none => plainExpression t
  | _ => plainExpression t
termination_by (t.weight, 1)
decreasing_by
  all_goals first | exact Prod.Lex.left _ _ (Below.lt _) | exact Prod.Lex.right _ (by decide)

def plainExpression (t : ParseTree) : Read Node :=
  return r.node t (.plainExpression (← t.nestedCode.mapM fun c => expression c.tree))
termination_by (t.weight, 0)
decreasing_by exact Prod.Lex.left _ _ (Below.lt _)

/-- The arguments of a call or an enum constant. -/
def arguments (t : ParseTree) : Read (List Node) :=
  match t.fieldBelow? "arguments" with
  | none => .ok []
  | some list => list.tree.parts.mapM fun c => expression c.tree
termination_by (t.weight, 0)
decreasing_by exact Prod.Lex.left _ _ (Nat.lt_trans (Below.lt _) (Below.lt _))

def statementList (skip : List String) (t : ParseTree) : Read (List Node) :=
  (t.statementParts skip).mapM fun c => statement c.tree
termination_by (t.weight, 0)
decreasing_by exact Prod.Lex.left _ _ (Below.lt _)

def block (t : ParseTree) : Read Node :=
  return r.node t (.block (← statementList ["\x7b", "\x7d"] t))
termination_by (t.weight, 1)
decreasing_by exact Prod.Lex.right _ (by decide)

/-- The variables of a field or local declaration. -/
def declarators (t : ParseTree) : Read (List Node) :=
  (t.fieldsBelow "declarator").mapM fun c => do
    let name ← r.fieldText c.tree "name"
    match c.tree.fieldBelow? "value" with
    | none => return r.node c.tree (.variableDeclarator name none)
    | some value => return r.node c.tree (.variableDeclarator name (some (← expression value.tree)))
termination_by (t.weight, 0)
decreasing_by exact Prod.Lex.left _ _ (Nat.lt_trans (Below.lt _) (Below.lt _))

/-- The last label of a group holds its statements and reaches to the end of the group. -/
def groupEntries (t : ParseTree) (statements : List Node) : List t.Below → Read (List Node)
  | [] => .ok []
  | [label] => do
    let entry ← switchEntry label.tree ⟨(r.source.span label.tree).start, (r.source.span t).stop⟩
      statements
    return [entry]
  | label :: rest => do
    let entry ← switchEntry label.tree (r.source.span label.tree) []
    return entry :: (← groupEntries t statements rest)
termination_by labels => (t.weight, labels.length)
decreasing_by
  · exact Prod.Lex.left _ _ (Below.lt _)
  · exact Prod.Lex.left _ _ (Below.lt _)
  · exact Prod.Lex.right _ (by simp)

def switchEntry (label : ParseTree) (span : Span) (statements : List Node) : Read Node := do
  let labels ← label.parts.mapM fun c => expression c.tree
  return .bare span
    (.switchEntry labels statements (label.children.any (·.type == "default")))
termination_by (label.weight, 0)
decreasing_by exact Prod.Lex.left _ _ (Below.lt _)

/-- A group of labels with statements makes one entry per label, a rule makes one entry. -/
def switchEntries (t : ParseTree) : Read (List Node) := do
  let entries ← t.namedBelow.mapM fun c => do
    match c.tree.type with
    | "switch_block_statement_group" =>
      let statements ← statementList [":", "->"] c.tree
      groupEntries c.tree statements (c.tree.namedBelow.filter (·.tree.type == "switch_label"))
    | "switch_rule" =>
      let label ← found (c.tree.namedOfType? "switch_label")
      let statements ← statementList [":", "->"] c.tree
      return [← switchEntry label.tree (r.source.span c.tree) statements]
    | _ => return []
  return entries.flatten
termination_by (t.weight, 0)
decreasing_by
  all_goals
    exact Prod.Lex.left _ _ (by first | exact Below.lt _ | exact Nat.lt_trans (Below.lt _) (Below.lt _))

def tryStatement (t : ParseTree) : Read Node := do
  let resources ← match t.fieldBelow? "resources" with
    | none => pure []
    | some specification => specification.tree.parts.mapM fun c => do
      let name := r.text ((c.tree.field? "name").getD c.tree)
      match c.tree.fieldBelow? "value" with
      | none => return r.node c.tree (.resource name none)
      | some value => return r.node c.tree (.resource name (some (← expression value.tree)))
  let parts ← t.namedBelow.mapM fun c => do
    match c.tree.type with
    | "catch_clause" =>
      let parameter ← found (c.tree.namedOfType? "catch_formal_parameter")
      let type ← found (parameter.tree.namedOfType? "catch_type")
      let name ← r.fieldText parameter.tree "name"
      let body ← required (c.tree.fieldBelow? "body")
      return some (.catch (r.node c.tree
        (.catchClause ⟨r.typeText type.tree, name⟩ (← block body.tree))))
    | "finally_clause" =>
      let body ← found (c.tree.namedOfType? "block")
      return some (.last (← block body.tree))
    | _ => return none
  let parts := parts.filterMap id
  let body ← required (t.fieldBelow? "body")
  return r.node t (.tryStatement resources (← block body.tree) (parts.filterMap TryPart.catch?)
    (parts.filterMap TryPart.last?).getLast?)
termination_by (t.weight, 2)
decreasing_by
  all_goals
    exact Prod.Lex.left _ _ (by
      first
      | exact Below.lt _
      | exact Nat.lt_trans (Below.lt _) (Below.lt _)
      | exact Nat.lt_trans (Below.lt _) (Nat.lt_trans (Below.lt _) (Below.lt _)))

def forStatement (t : ParseTree) : Read Node := do
  let init ← (t.fieldsBelow "init").mapM fun c =>
    if c.tree.type == "local_variable_declaration" then statement c.tree else expression c.tree
  let body ← required (t.fieldBelow? "body")
  let body ← statement body.tree
  let condition ← match t.fieldBelow? "condition" with
    | none => pure none
    | some c => some <$> expression c.tree
  let update ← (t.fieldsBelow "update").mapM fun c => expression c.tree
  return r.node t (.forStatement init condition update body)
termination_by (t.weight, 2)
decreasing_by all_goals exact Prod.Lex.left _ _ (Below.lt _)

def ifStatement (t : ParseTree) : Read Node := do
  let condition ← required (t.fieldBelow? "condition")
  let condition ← expression condition.tree
  let consequence ← required (t.fieldBelow? "consequence")
  let consequence ← statement consequence.tree
  match t.fieldBelow? "alternative" with
  | none => return r.node t (.ifStatement condition consequence none)
  | some c => return r.node t (.ifStatement condition consequence (some (← statement c.tree)))
termination_by (t.weight, 2)
decreasing_by all_goals exact Prod.Lex.left _ _ (Below.lt _)

/-- The expression that a statement consists of. -/
def soleExpression (t : ParseTree) : Read Node :=
  match t.parts with
  | [] => r.reject t (.empty t.type)
  | c :: _ => expression c.tree
termination_by (t.weight, 0)
decreasing_by exact Prod.Lex.left _ _ (Below.lt _)

/-- A statement of a single keyword and expressions. -/
def simpleStatement (t : ParseTree) : Read Node :=
  match t.type with
  | "expression_statement" => return r.node t (.expressionStatement (← soleExpression t))
  | "yield_statement" => return r.node t (.yieldStatement (← soleExpression t))
  | "throw_statement" => return r.node t (.throwStatement (← soleExpression t))
  | "break_statement" => return r.node t (.breakStatement (r.optionalIdentifier t))
  | "continue_statement" => return r.node t (.continueStatement (r.optionalIdentifier t))
  | "return_statement" =>
    match t.parts with
    | [] => return r.node t (.returnStatement none)
    | c :: _ => return r.node t (.returnStatement (some (← expression c.tree)))
  | "assert_statement" =>
    match t.parts with
    | [] => .error (.mishap .absentPlace)
    | [c] => return r.node t (.assertStatement (← expression c.tree) none)
    | c :: d :: _ => do
      let check ← expression c.tree
      return r.node t (.assertStatement check (some (← expression d.tree)))
  | "explicit_constructor_invocation" => do
    let isThis := (t.field? "constructor").any (·.type == "this")
    return r.node t (.constructorCall isThis (← arguments t) false)
  | _ => r.reject t (.unsupportedStatement t.type)
termination_by (t.weight, 1)
decreasing_by
  all_goals first | exact Prod.Lex.left _ _ (Below.lt _) | exact Prod.Lex.right _ (by decide)

def statement (t : ParseTree) : Read Node :=
  if t.isTypeDeclaration then typeDeclaration t
  else match t.type with
  | "block" => block t
  | ";" => return r.node t .emptyStatement
  | "local_variable_declaration" => do
    let type ← r.fieldText t "type"
    return r.node t (.localDeclaration type (← declarators t))
  | "labeled_statement" => do
    let label ← found (t.namedOfType? "identifier")
    let last ← placed t.childrenBelow.getLast?
    return r.node t (.labeledStatement (r.text label.tree) (← statement last.tree))
  | "if_statement" => ifStatement t
  | "while_statement" => do
    let condition ← required (t.fieldBelow? "condition")
    let condition ← expression condition.tree
    let body ← required (t.fieldBelow? "body")
    return r.node t (.whileStatement condition (← statement body.tree))
  | "do_statement" => do
    let body ← required (t.fieldBelow? "body")
    let body ← statement body.tree
    let condition ← required (t.fieldBelow? "condition")
    return r.node t (.doStatement body (← expression condition.tree))
  | "for_statement" => forStatement t
  | "enhanced_for_statement" => do
    let type ← r.fieldText t "type"
    let name ← r.fieldText t "name"
    let value ← required (t.fieldBelow? "value")
    let value ← expression value.tree
    let body ← required (t.fieldBelow? "body")
    return r.node t (.forEachStatement ⟨type, name⟩ value (← statement body.tree))
  | "synchronized_statement" => do
    let lock ← placed t.parts.head?
    let lock ← expression lock.tree
    let body ← required (t.fieldBelow? "body")
    return r.node t (.synchronizedStatement lock (← block body.tree))
  | "try_statement" | "try_with_resources_statement" => tryStatement t
  | "switch_expression" => do
    let condition ← required (t.fieldBelow? "condition")
    let selector ← expression condition.tree
    let body ← required (t.fieldBelow? "body")
    return r.node t (.switchStatement selector (← switchEntries body.tree))
  | _ => simpleStatement t
termination_by (t.weight, 3)
decreasing_by
  all_goals first | exact Prod.Lex.left _ _ (Below.lt _) | exact Prod.Lex.right _ (by decide)

def typeDeclaration (t : ParseTree) : Read Node := do
  let name ← r.fieldText t "name"
  let modifiers := modifiers t
  match t.type with
  | "class_declaration" =>
    return r.node t (.typeDeclaration .class name modifiers (← bodyMembers [] t))
  | "interface_declaration" =>
    return r.node t (.typeDeclaration .interface name modifiers (← bodyMembers [] t))
  | "annotation_type_declaration" =>
    return r.node t (.typeDeclaration .annotationType name modifiers (← bodyMembers [] t))
  | "enum_declaration" =>
    let parts ← enumParts t
    return r.node t (.enumDeclaration name modifiers (parts.filterMap EnumPart.constant?)
      (parts.flatMap EnumPart.memberList))
  | "record_declaration" =>
    let components ← r.parameters (t.field? "parameters")
    return r.node t
      (.typeDeclaration (.record components) name modifiers (← bodyMembers components t))
  | _ => r.reject t (.unexpectedType t.type)
termination_by (t.weight, 2)
decreasing_by all_goals exact Prod.Lex.right _ (by decide)

/-- The members in the body of a type, if there is one. -/
def bodyMembers (components : List Parameter) (t : ParseTree) : Read (List Node) :=
  match t.fieldBelow? "body" with
  | none => .ok []
  | some body => members components body.tree
termination_by (t.weight, 0)
decreasing_by exact Prod.Lex.left _ _ (Below.lt _)

def enumParts (t : ParseTree) : Read (List EnumPart) :=
  match t.fieldBelow? "body" with
  | none => .ok []
  | some body => do
    let parts ← body.tree.namedBelow.mapM fun c => do
      match c.tree.type with
      | "enum_constant" => return some (.constant (← enumConstant c.tree))
      | "enum_body_declarations" => return some (.members (← members [] c.tree))
      | _ => return none
    return parts.filterMap id
termination_by (t.weight, 0)
decreasing_by all_goals exact Prod.Lex.left _ _ (Nat.lt_trans (Below.lt _) (Below.lt _))

def enumConstant (t : ParseTree) : Read Node := do
  let name ← r.fieldText t "name"
  let arguments ← arguments t
  match t.fieldBelow? "body" with
  | none => return r.node t (.enumConstant name arguments none)
  | some body => return r.node t (.enumConstant name arguments (some (← members [] body.tree)))
termination_by (t.weight, 1)
decreasing_by
  all_goals first | exact Prod.Lex.left _ _ (Below.lt _) | exact Prod.Lex.right _ (by decide)

/-- The members of a body; compact constructors take the components of their record. -/
def members (components : List Parameter) (t : ParseTree) : Read (List Node) :=
  t.parts.mapM fun c => member components c.tree
termination_by (t.weight, 0)
decreasing_by exact Prod.Lex.left _ _ (Below.lt _)

def constructorBody (t : ParseTree) : Read Node := do
  let body ← required (t.fieldBelow? "body")
  block body.tree
termination_by (t.weight, 0)
decreasing_by exact Prod.Lex.left _ _ (Below.lt _)

def method (t : ParseTree) : Read Node := do
  let type ← r.fieldText t "type"
  let dimensions := ((t.field? "dimensions").map r.text).getD ""
  let name ← r.fieldText t "name"
  let parameters ← r.parameters (t.field? "parameters")
  let body ← match t.fieldBelow? "body" with
    | none => pure none
    | some body => some <$> block body.tree
  return r.node t (.callable (.method (type ++ dimensions)) name parameters body (modifiers t))
termination_by (t.weight, 0)
decreasing_by exact Prod.Lex.left _ _ (Below.lt _)

def annotationMember (t : ParseTree) : Read Node := do
  let name ← r.fieldText t "name"
  let type ← r.fieldText t "type"
  match t.defaultValue? with
  | none => return r.node t (.annotationMember name type none (modifiers t))
  | some value =>
    return r.node t (.annotationMember name type (some (← expression value.tree)) (modifiers t))
termination_by (t.weight, 0)
decreasing_by exact Prod.Lex.left _ _ (Below.lt _)

def member (components : List Parameter) (t : ParseTree) : Read Node :=
  if t.isTypeDeclaration then typeDeclaration t
  else match t.type with
  | "field_declaration" | "constant_declaration" => do
    let type ← r.fieldText t "type"
    return r.node t (.fieldDeclaration type (← declarators t) (modifiers t))
  | "method_declaration" => method t
  | "constructor_declaration" => do
    let name ← r.fieldText t "name"
    let parameters ← r.parameters (t.field? "parameters")
    let body ← constructorBody t
    return r.node t (.callable .constructor name parameters (some body) (modifiers t))
  | "compact_constructor_declaration" => do
    let name ← r.fieldText t "name"
    let body ← constructorBody t
    return r.node t (.callable .constructor name components (some body) (modifiers t))
  | "static_initializer" => do
    let body ← found (t.namedOfType? "block")
    return r.node t (.initializerBlock (← block body.tree) true)
  | "block" => return r.node t (.initializerBlock (← block t) false)
  | "annotation_type_element_declaration" => annotationMember t
  | "enum_constant" | "enum_body_declarations" => r.reject t (.outsideEnum t.type)
  | _ => r.reject t (.unexpectedMember t.type)
termination_by (t.weight, 3)
decreasing_by
  all_goals first | exact Prod.Lex.left _ _ (Below.lt _) | exact Prod.Lex.right _ (by decide)

end

end Reading

end JavaCensus
