import JavaCensus.Json.Access
import JavaCensus.Syntax.Node

/-!
# Syntax trees as documents

A node is an object of its label, its range, the fields of its construct and its comments. Comments
stand in a table beside the tree, and a node refers to them by their place there.
-/
namespace JavaCensus

namespace Span

def ofElements (es : List Json) : Span :=
  let n (i : Nat) : Int := (es[i]?.getD .null).toInt
  .ofLines (n 0) (n 1) (n 2) (n 3)

def toElements (s : Span) : List Json :=
  [s.start.line, s.start.column, s.stop.line, s.stop.column].map .int

end Span

namespace CommentKind

def name : CommentKind → String
  | .line => "line"
  | .block => "block"
  | .doc => "doc"

def ofName (name : String) : CommentKind :=
  ([line, block, doc].find? (·.name == name)).getD .doc

end CommentKind

namespace Comment

def ofJson (number : Nat) (j : Json) : Comment :=
  ⟨number, .ofName (j.element 0).toText, (j.element 1).toText, .ofElements (j.elements.drop 2)⟩

def toJson (c : Comment) : Json :=
  .array (.string c.kind.name :: .string c.content :: c.span.toElements)

end Comment

def Parameter.ofJson (j : Json) : Parameter :=
  ⟨(j.element 0).toText, (j.element 1).toText⟩

def Parameter.toJson (p : Parameter) : Json :=
  .array [.string p.type, .string p.name]

/-- Modifiers by their keywords in order, each once. -/
def modifiersJson (ms : List Modifier) : Json :=
  .array ((sortBy (fun a b => !(b < a)) ((distinct ms).map (·.keyword))).map .string)

/-- The nodes that members of an object hold, by the name of the member. -/
abbrev PartTable := List (String × List Node)

namespace PartTable

def many? (t : PartTable) (key : String) : Option (List Node) :=
  (t.find? (·.1 == key)).map (·.2)

def many (t : PartTable) (key : String) : List Node :=
  (t.many? key).getD []

def one? (t : PartTable) (key : String) : Option Node :=
  (t.many? key).bind (·.head?)

/-- A part that must be there; a node of which nothing is known stands for a missing one. -/
def one (t : PartTable) (key : String) : Node :=
  (t.one? key).getD (.bare (.ofLines 0 0 0 0) (.bare .node))

end PartTable

namespace Construct

/-- The construct that an object and its parts describe. -/
def ofObject (j : Json) (parts : PartTable) : Construct Node :=
  let name := j.textOr "name" ""
  let type := j.textOr "type_name" ""
  let modifiers := (j.listOf "modifiers").filterMap fun m => Modifier.ofKeyword? m.toText
  let flag (key : String) := (j.member key).toBool
  let parameters (key : String) := (j.listOf key).map Parameter.ofJson
  let declared (sort : TypeSort) := typeDeclaration sort name modifiers (parts.many "members")
  let callableOf (sort : CallableSort) :=
    callable sort name (parameters "parameters") (parts.one? "body") modifiers
  match j.textOr "node" "" with
  | "DocumentableNode" => bare .documentable
  | "Statement" => bare .statement
  | "Expression" => bare .expression
  | "PackageDeclaration" => packageDeclaration name
  | "ImportDeclaration" => importDeclaration name (flag "is_static") (flag "is_wildcard")
  | "ModuleDirective" =>
    moduleDirective ((DirectiveKind.ofKeyword? (j.textOr "kind" "")).getD .requires) name
  | "ModuleDeclaration" => moduleDeclaration name (flag "is_open") (parts.many "directives")
  | "CompilationUnit" =>
    compilationUnit (parts.one? "package") (parts.many "imports") (parts.many "types")
      (parts.one? "module")
  | "TypeDeclaration" => declared .unspecified
  | "ClassDeclaration" => declared .class
  | "InterfaceDeclaration" => declared .interface
  | "AnnotationDeclaration" => declared .annotationType
  | "RecordDeclaration" => declared (.record (parameters "components"))
  | "EnumDeclaration" =>
    enumDeclaration name modifiers (parts.many "constants") (parts.many "members")
  | "VariableDeclarator" => variableDeclarator name (parts.one? "initializer")
  | "FieldDeclaration" => fieldDeclaration type (parts.many "variables") modifiers
  | "CallableDeclaration" => callableOf .unspecified
  | "MethodDeclaration" => callableOf (.method (j.textOr "return_type" "void"))
  | "ConstructorDeclaration" => callableOf .constructor
  | "InitializerDeclaration" => initializerBlock (parts.one "body") (flag "is_static")
  | "EnumConstantDeclaration" =>
    enumConstant name (parts.many "arguments") (parts.many? "body")
  | "AnnotationMemberDeclaration" =>
    annotationMember name type (parts.one? "default_value") modifiers
  | "Block" => block (parts.many "statements")
  | "EmptyStmt" => emptyStatement
  | "ExpressionStmt" => expressionStatement (parts.one "expression")
  | "LocalVariableDeclaration" => localDeclaration type (parts.many "variables")
  | "LabeledStmt" => labeledStatement (j.textOr "label" "") (parts.one "statement")
  | "IfStmt" =>
    ifStatement (parts.one "condition") (parts.one "then_statement")
      (parts.one? "else_statement")
  | "WhileStmt" => whileStatement (parts.one "condition") (parts.one "body")
  | "DoStmt" => doStatement (parts.one "body") (parts.one "condition")
  | "ForStmt" =>
    forStatement (parts.many "init") (parts.one? "condition") (parts.many "update")
      (parts.one "body")
  | "ForEachStmt" =>
    forEachStatement (.ofJson (j.member "variable")) (parts.one "iterable") (parts.one "body")
  | "AssertStmt" => assertStatement (parts.one "check") (parts.one? "message")
  | "BreakStmt" => breakStatement (j.text? "label")
  | "ContinueStmt" => continueStatement (j.text? "label")
  | "ReturnStmt" => returnStatement (parts.one? "expression")
  | "YieldStmt" => yieldStatement (parts.one "expression")
  | "ThrowStmt" => throwStatement (parts.one "expression")
  | "SynchronizedStmt" => synchronizedStatement (parts.one "lock") (parts.one "body")
  | "Resource" => resource name (parts.one? "initializer")
  | "CatchClause" => catchClause (.ofJson (j.member "parameter")) (parts.one "body")
  | "TryStmt" =>
    tryStatement (parts.many "resources") (parts.one "try_block") (parts.many "catch_clauses")
      (parts.one? "finally_block")
  | "SwitchEntry" =>
    switchEntry (parts.many "labels") (parts.many "statements") (flag "is_default")
  | "SwitchStmt" => switchStatement (parts.one "selector") (parts.many "entries")
  | "ExplicitConstructorInvocationStmt" =>
    constructorCall (flag "is_this") (parts.many "arguments") (flag "is_implicit")
  | "OpaqueExpr" => plainExpression (parts.many "nested")
  | "LambdaExpr" => lambda (parts.one "body")
  | "ObjectCreationExpr" => objectCreation type (parts.many "arguments") (parts.many? "body")
  | "SwitchExpr" => switchExpression (parts.one "selector") (parts.many "entries")
  | _ => bare .node

/-- Puts the given documents in the place of the parts, in their order. -/
def fill {α : Type} (construct : Construct α) (parts : List Json) : Construct Json :=
  ((construct.traverse (m := StateM (List Json)) fun _ =>
    modifyGet fun js => (js.headD .null, js.tail)).run parts).1

/-- The fields of a construct whose parts are documents. -/
def members : Construct Json → List (String × Json)
  | bare _ | emptyStatement => []
  | packageDeclaration name => [("name", .string name)]
  | importDeclaration name isStatic isWildcard =>
    [("name", .string name), ("is_static", .bool isStatic), ("is_wildcard", .bool isWildcard)]
  | moduleDirective kind name => [("kind", .string kind.keyword), ("name", .string name)]
  | moduleDeclaration name isOpen directives =>
    [("name", .string name), ("is_open", .bool isOpen), ("directives", .array directives)]
  | compilationUnit package imports types module =>
    [("package", package.getD .null), ("imports", .array imports), ("types", .array types),
      ("module", module.getD .null)]
  | typeDeclaration sort name modifiers ms =>
    [("name", .string name), ("modifiers", modifiersJson modifiers), ("members", .array ms)] ++
      match sort with
      | .record components => [("components", .array (components.map (·.toJson)))]
      | _ => []
  | enumDeclaration name modifiers constants ms =>
    [("name", .string name), ("modifiers", modifiersJson modifiers),
      ("constants", .array constants), ("members", .array ms)]
  | variableDeclarator name initializer | resource name initializer =>
    [("name", .string name), ("initializer", initializer.getD .null)]
  | fieldDeclaration type declarators modifiers =>
    [("type_name", .string type), ("variables", .array declarators),
      ("modifiers", modifiersJson modifiers)]
  | callable sort name parameters body modifiers =>
    [("name", .string name), ("parameters", .array (parameters.map (·.toJson))),
      ("body", body.getD .null), ("modifiers", modifiersJson modifiers)] ++
      match sort with
      | .method returnType => [("return_type", .string returnType)]
      | _ => []
  | initializerBlock body isStatic => [("body", body), ("is_static", .bool isStatic)]
  | enumConstant name arguments body =>
    [("name", .string name), ("arguments", .array arguments),
      ("body", (body.map .array).getD .null)]
  | annotationMember name type default modifiers =>
    [("name", .string name), ("type_name", .string type), ("default_value", default.getD .null),
      ("modifiers", modifiersJson modifiers)]
  | block statements => [("statements", .array statements)]
  | expressionStatement e | yieldStatement e | throwStatement e => [("expression", e)]
  | localDeclaration type declarators =>
    [("type_name", .string type), ("variables", .array declarators)]
  | labeledStatement label statement => [("label", .string label), ("statement", statement)]
  | ifStatement condition consequence alternative =>
    [("condition", condition), ("then_statement", consequence),
      ("else_statement", alternative.getD .null)]
  | whileStatement condition body | doStatement body condition =>
    [("condition", condition), ("body", body)]
  | forStatement init condition update body =>
    [("init", .array init), ("condition", condition.getD .null), ("update", .array update),
      ("body", body)]
  | forEachStatement parameter iterable body =>
    [("variable", parameter.toJson), ("iterable", iterable), ("body", body)]
  | assertStatement check message => [("check", check), ("message", message.getD .null)]
  | breakStatement label | continueStatement label =>
    [("label", (label.map .string).getD .null)]
  | returnStatement e => [("expression", e.getD .null)]
  | synchronizedStatement lock body => [("lock", lock), ("body", body)]
  | catchClause parameter body => [("parameter", parameter.toJson), ("body", body)]
  | tryStatement resources body catches last =>
    [("resources", .array resources), ("try_block", body), ("catch_clauses", .array catches),
      ("finally_block", last.getD .null)]
  | switchEntry labels statements isDefault =>
    [("labels", .array labels), ("statements", .array statements),
      ("is_default", .bool isDefault)]
  | switchStatement selector entries | switchExpression selector entries =>
    [("selector", selector), ("entries", .array entries)]
  | constructorCall isThis arguments isImplicit =>
    [("is_this", .bool isThis), ("arguments", .array arguments),
      ("is_implicit", .bool isImplicit)]
  | plainExpression nested => [("nested", .array nested)]
  | lambda body => [("body", body)]
  | objectCreation type arguments body =>
    [("type_name", .string type), ("arguments", .array arguments),
      ("body", (body.map .array).getD .null)]

end Construct

namespace Node

variable (table : Array Comment)

/-- The comment that stands at a place of the table. -/
def commentAt? (j : Json) : Option Comment :=
  j.int?.bind fun n => table[n.toNat]?

/-- The node that an object and its parts describe. -/
def ofObject (j : Json) (parts : PartTable) : Node :=
  ⟨.ofElements (j.listOf "range"),
    ⟨commentAt? table (j.member "comment"), commentAt? table (j.member "doc"),
      (j.listOf "orphans").filterMap (commentAt? table)⟩,
    .ofObject j parts⟩

mutual

/-- The nodes that a document holds: an object is a node, an array holds nodes. -/
def nodes? : Json → Option (List Node)
  | .object ms => some [ofObject table (.object ms) (partsOf ms)]
  | .array es => some (nodesOf es)
  | _ => none

def partsOf : List (String × Json) → PartTable
  | [] => []
  | (key, value) :: ms =>
    match nodes? value with
    | some ns => (key, ns) :: partsOf ms
    | none => partsOf ms

def nodesOf : List Json → List Node
  | [] => []
  | j :: js => (nodes? j).getD [] ++ nodesOf js

end

def ofJson (j : Json) : Node :=
  ofObject table j (partsOf table j.members)

/-- The members that name the comments of a node, by their places. -/
def slotMembers (place : Comment → Nat) (s : Slots) : List (String × Json) :=
  let one (key : String) (c : Option Comment) : List (String × Json) :=
    (c.map fun c => (key, .int (place c))).toList
  one "comment" s.comment ++ one "doc" s.doc ++
    if s.orphans.isEmpty then [] else [("orphans", .array (s.orphans.map fun c => .int (place c)))]

/-- Writes a tree, its comments by their places. -/
def toJson (place : Comment → Nat) (n : Node) : Json :=
  let parts := n.children.attach.map fun c => c.1.toJson place
  .object ([("node", .string n.label), ("range", .array n.span.toElements)] ++
    (n.construct.fill parts).members ++ slotMembers place n.slots)
termination_by n
decreasing_by exact sizeOf_lt_of_mem_children c.2

end Node

end JavaCensus
