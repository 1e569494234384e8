import JavaCensus.Syntax.Modifier

/-!
# Constructs of the language

One layer of a syntax tree: what a construct says itself, and its parts of some type `α`.
`children` lists the parts in source order, and `traverse` and `refill` replace them in that order.
-/
namespace JavaCensus

/-- The type already ends in dots if the parameter takes any number of arguments. -/
structure Parameter where
  type : String
  name : String
  deriving DecidableEq, Repr

inductive DirectiveKind where
  | «requires» | «exports» | «opens» | «uses» | «provides»
  deriving DecidableEq, Repr

namespace DirectiveKind

def keyword : DirectiveKind → String
  | .requires => "requires"
  | .exports => "exports"
  | .opens => "opens"
  | .uses => "uses"
  | .provides => "provides"

def ofKeyword? (word : String) : Option DirectiveKind :=
  [.requires, .exports, .opens, .uses, .provides].find? (·.keyword == word)

end DirectiveKind

/-- The broad families of constructs, for a construct of which nothing more is known. -/
inductive Family where
  | node
  | documentable
  | statement
  | expression
  deriving DecidableEq, Repr

/-- The sorts of type declarations whose parts are members only. -/
inductive TypeSort where
  | unspecified
  | «class»
  | interface
  | annotationType
  | record (components : List Parameter)
  deriving DecidableEq, Repr

inductive CallableSort where
  | unspecified
  | method (returnType : String)
  | constructor
  deriving DecidableEq, Repr

inductive Construct (α : Type) where
  | bare (family : Family)
  | packageDeclaration (name : String)
  | importDeclaration (name : String) (isStatic isWildcard : Bool)
  | moduleDirective (kind : DirectiveKind) (name : String)
  | moduleDeclaration (name : String) (isOpen : Bool) (directives : List α)
  | compilationUnit (package : Option α) (imports types : List α) (module : Option α)
  | typeDeclaration (sort : TypeSort) (name : String) (modifiers : List Modifier)
      (members : List α)
  | enumDeclaration (name : String) (modifiers : List Modifier) (constants members : List α)
  | variableDeclarator (name : String) (initializer : Option α)
  | fieldDeclaration (type : String) (declarators : List α) (modifiers : List Modifier)
  | callable (sort : CallableSort) (name : String) (parameters : List Parameter)
      (body : Option α) (modifiers : List Modifier)
  | initializerBlock (body : α) (isStatic : Bool)
  | enumConstant (name : String) (arguments : List α) (body : Option (List α))
  | annotationMember (name type : String) (default : Option α) (modifiers : List Modifier)
  | block (statements : List α)
  | emptyStatement
  | expressionStatement (expression : α)
  | localDeclaration (type : String) (declarators : List α)
  | labeledStatement (label : String) (statement : α)
  | ifStatement (condition consequence : α) (alternative : Option α)
  | whileStatement (condition body : α)
  | doStatement (body condition : α)
  | forStatement (init : List α) (condition : Option α) (update : List α) (body : α)
  | forEachStatement (parameter : Parameter) (iterable body : α)
  | assertStatement (check : α) (message : Option α)
  | breakStatement (label : Option String)
  | continueStatement (label : Option String)
  | returnStatement (expression : Option α)
  | yieldStatement (expression : α)
  | throwStatement (expression : α)
  | synchronizedStatement (lock body : α)
  | resource (name : String) (initializer : Option α)
  | catchClause (parameter : Parameter) (body : α)
  | tryStatement (resources : List α) (body : α) (catches : List α) (last : Option α)
  | switchEntry (labels statements : List α) (isDefault : Bool)
  | switchStatement (selector : α) (entries : List α)
  | constructorCall (isThis : Bool) (arguments : List α) (isImplicit : Bool)
  | plainExpression (nested : List α)
  | lambda (body : α)
  | objectCreation (type : String) (arguments : List α) (body : Option (List α))
  | switchExpression (selector : α) (entries : List α)
  deriving Repr

namespace Construct

variable {α β : Type}

/-- The parts, in the order in which they are visited. -/
def children : Construct α → List α
  | .bare _ | .packageDeclaration _ | .importDeclaration .. | .moduleDirective .. => []
  | .moduleDeclaration _ _ directives => directives
  | .compilationUnit package imports types module =>
    package.toList ++ imports ++ module.toList ++ types
  | .typeDeclaration _ _ _ members => members
  | .enumDeclaration _ _ constants members => constants ++ members
  | .variableDeclarator _ initializer => initializer.toList
  | .fieldDeclaration _ declarators _ => declarators
  | .callable _ _ _ body _ => body.toList
  | .initializerBlock body _ => [body]
  | .enumConstant _ arguments body => arguments ++ body.getD []
  | .annotationMember _ _ default _ => default.toList
  | .block statements => statements
  | .emptyStatement => []
  | .expressionStatement expression => [expression]
  | .localDeclaration _ declarators => declarators
  | .labeledStatement _ statement => [statement]
  | .ifStatement condition consequence alternative =>
    condition :: consequence :: alternative.toList
  | .whileStatement condition body => [condition, body]
  | .doStatement body condition => [body, condition]
  | .forStatement init condition update body => init ++ condition.toList ++ update ++ [body]
  | .forEachStatement _ iterable body => [iterable, body]
  | .assertStatement check message => check :: message.toList
  | .breakStatement _ | .continueStatement _ => []
  | .returnStatement expression => expression.toList
  | .yieldStatement expression => [expression]
  | .throwStatement expression => [expression]
  | .synchronizedStatement lock body => [lock, body]
  | .resource _ initializer => initializer.toList
  | .catchClause _ body => [body]
  | .tryStatement resources body catches last =>
    resources ++ [body] ++ catches ++ last.toList
  | .switchEntry labels statements _ => labels ++ statements
  | .switchStatement selector entries => selector :: entries
  | .constructorCall _ arguments _ => arguments
  | .plainExpression nested => nested
  | .lambda body => [body]
  | .objectCreation _ arguments body => arguments ++ body.getD []
  | .switchExpression selector entries => selector :: entries

/-- Replaces the parts, with effects in the order of `children`. -/
def traverse {m : Type → Type} [Monad m] (f : α → m β) : Construct α → m (Construct β)
  | .bare family => pure (.bare family)
  | .packageDeclaration name => pure (.packageDeclaration name)
  | .importDeclaration name isStatic isWildcard =>
    pure (.importDeclaration name isStatic isWildcard)
  | .moduleDirective kind name => pure (.moduleDirective kind name)
  | .moduleDeclaration name isOpen directives =>
    return .moduleDeclaration name isOpen (← directives.mapM f)
  | .compilationUnit package imports types module => do
    let package ← package.mapM f
    let imports ← imports.mapM f
    let module ← module.mapM f
    return .compilationUnit package imports (← types.mapM f) module
  | .typeDeclaration sort name modifiers members =>
    return .typeDeclaration sort name modifiers (← members.mapM f)
  | .enumDeclaration name modifiers constants members =>
    return .enumDeclaration name modifiers (← constants.mapM f) (← members.mapM f)
  | .variableDeclarator name initializer =>
    return .variableDeclarator name (← initializer.mapM f)
  | .fieldDeclaration type declarators modifiers =>
    return .fieldDeclaration type (← declarators.mapM f) modifiers
  | .callable sort name parameters body modifiers =>
    return .callable sort name parameters (← body.mapM f) modifiers
  | .initializerBlock body isStatic => return .initializerBlock (← f body) isStatic
  | .enumConstant name arguments body =>
    return .enumConstant name (← arguments.mapM f) (← body.mapM (·.mapM f))
  | .annotationMember name type default modifiers =>
    return .annotationMember name type (← default.mapM f) modifiers
  | .block statements => return .block (← statements.mapM f)
  | .emptyStatement => pure .emptyStatement
  | .expressionStatement expression => return .expressionStatement (← f expression)
  | .localDeclaration type declarators => return .localDeclaration type (← declarators.mapM f)
  | .labeledStatement label statement => return .labeledStatement label (← f statement)
  | .ifStatement condition consequence alternative =>
    return .ifStatement (← f condition) (← f consequence) (← alternative.mapM f)
  | .whileStatement condition body => return .whileStatement (← f condition) (← f body)
  | .doStatement body condition => return .doStatement (← f body) (← f condition)
  | .forStatement init condition update body =>
    return .forStatement (← init.mapM f) (← condition.mapM f) (← update.mapM f) (← f body)
  | .forEachStatement parameter iterable body =>
    return .forEachStatement parameter (← f iterable) (← f body)
  | .assertStatement check message => return .assertStatement (← f check) (← message.mapM f)
  | .breakStatement label => pure (.breakStatement label)
  | .continueStatement label => pure (.continueStatement label)
  | .returnStatement expression => return .returnStatement (← expression.mapM f)
  | .yieldStatement expression => return .yieldStatement (← f expression)
  | .throwStatement expression => return .throwStatement (← f expression)
  | .synchronizedStatement lock body => return .synchronizedStatement (← f lock) (← f body)
  | .resource name initializer => return .resource name (← initializer.mapM f)
  | .catchClause parameter body => return .catchClause parameter (← f body)
  | .tryStatement resources body catches last =>
    return .tryStatement (← resources.mapM f) (← f body) (← catches.mapM f) (← last.mapM f)
  | .switchEntry labels statements isDefault =>
    return .switchEntry (← labels.mapM f) (← statements.mapM f) isDefault
  | .switchStatement selector entries => return .switchStatement (← f selector) (← entries.mapM f)
  | .constructorCall isThis arguments isImplicit =>
    return .constructorCall isThis (← arguments.mapM f) isImplicit
  | .plainExpression nested => return .plainExpression (← nested.mapM f)
  | .lambda body => return .lambda (← f body)
  | .objectCreation type arguments body =>
    return .objectCreation type (← arguments.mapM f) (← body.mapM (·.mapM f))
  | .switchExpression selector entries =>
    return .switchExpression (← f selector) (← entries.mapM f)

theorem mapM_toList {m : Type → Type} [Monad m] [LawfulMonad m] (f : α → m β) (o : Option α) :
    o.toList.mapM f = o.mapM f >>= fun b => pure b.toList := by
  cases o <;> simp

theorem mapM_getD {m : Type → Type} [Monad m] [LawfulMonad m] (f : α → m β)
    (o : Option (List α)) :
    (o.getD []).mapM f = o.mapM (·.mapM f) >>= fun p => pure (p.getD []) := by
  cases o <;> simp

/-- The parts are visited as `children` lists them, each once. -/
theorem children_traverse {m : Type → Type} [Monad m] [LawfulMonad m] (f : α → m β)
    (x : Construct α) : children <$> x.traverse f = x.children.mapM f := by
  cases x <;> simp [traverse, children, List.mapM_append, mapM_toList, mapM_getD,
    map_eq_pure_bind, -bind_pure_comp]

/-- The next of the given parts, or the present one if none is left. -/
def nextOr (a : α) : StateM (List α) α := fun
  | [] => (a, [])
  | b :: rest => (b, rest)

theorem mapM_nextOr {xs parts : List α} (h : xs.length ≤ parts.length) :
    (xs.mapM nextOr).run parts = (parts.take xs.length, parts.drop xs.length) := by
  induction xs generalizing parts with
  | nil => rfl
  | cons x xs ih =>
    cases parts with
    | nil => simp at h
    | cons b rest =>
      have h : xs.length ≤ rest.length := by simpa using h
      rw [List.mapM_cons]
      show (fun p : List α × List α => (b :: p.1, p.2)) ((xs.mapM nextOr).run rest) = _
      rw [ih h]
      rfl

/-- Puts the given parts in the place of the present ones; a part for which none is given stays. -/
def refill (construct : Construct α) (parts : List α) : Construct α :=
  ((construct.traverse nextOr).run parts).1

theorem children_refill {x : Construct α} {parts : List α}
    (h : parts.length = x.children.length) : (x.refill parts).children = parts := by
  have visited : (children <$> x.traverse nextOr).run parts =
      (parts.take x.children.length, parts.drop x.children.length) := by
    rw [children_traverse, mapM_nextOr (Nat.le_of_eq h.symm)]
  have taken : (x.refill parts).children = parts.take x.children.length :=
    congrArg Prod.fst visited
  rw [taken, ← h, List.take_length]

/-- The name under which messages speak of a construct. -/
def label : Construct α → String
  | .bare .node => "Node"
  | .bare .documentable => "DocumentableNode"
  | .bare .statement => "Statement"
  | .bare .expression => "Expression"
  | .packageDeclaration _ => "PackageDeclaration"
  | .importDeclaration .. => "ImportDeclaration"
  | .moduleDirective .. => "ModuleDirective"
  | .moduleDeclaration .. => "ModuleDeclaration"
  | .compilationUnit .. => "CompilationUnit"
  | .typeDeclaration .unspecified .. => "TypeDeclaration"
  | .typeDeclaration .class .. => "ClassDeclaration"
  | .typeDeclaration .interface .. => "InterfaceDeclaration"
  | .typeDeclaration .annotationType .. => "AnnotationDeclaration"
  | .typeDeclaration (.record _) .. => "RecordDeclaration"
  | .enumDeclaration .. => "EnumDeclaration"
  | .variableDeclarator .. => "VariableDeclarator"
  | .fieldDeclaration .. => "FieldDeclaration"
  | .callable .unspecified .. => "CallableDeclaration"
  | .callable (.method _) .. => "MethodDeclaration"
  | .callable .constructor .. => "ConstructorDeclaration"
  | .initializerBlock .. => "InitializerDeclaration"
  | .enumConstant .. => "EnumConstantDeclaration"
  | .annotationMember .. => "AnnotationMemberDeclaration"
  | .block _ => "Block"
  | .emptyStatement => "EmptyStmt"
  | .expressionStatement _ => "ExpressionStmt"
  | .localDeclaration .. => "LocalVariableDeclaration"
  | .labeledStatement .. => "LabeledStmt"
  | .ifStatement .. => "IfStmt"
  | .whileStatement .. => "WhileStmt"
  | .doStatement .. => "DoStmt"
  | .forStatement .. => "ForStmt"
  | .forEachStatement .. => "ForEachStmt"
  | .assertStatement .. => "AssertStmt"
  | .breakStatement _ => "BreakStmt"
  | .continueStatement _ => "ContinueStmt"
  | .returnStatement _ => "ReturnStmt"
  | .yieldStatement _ => "YieldStmt"
  | .throwStatement _ => "ThrowStmt"
  | .synchronizedStatement .. => "SynchronizedStmt"
  | .resource .. => "Resource"
  | .catchClause .. => "CatchClause"
  | .tryStatement .. => "TryStmt"
  | .switchEntry .. => "SwitchEntry"
  | .switchStatement .. => "SwitchStmt"
  | .constructorCall .. => "ExplicitConstructorInvocationStmt"
  | .plainExpression _ => "OpaqueExpr"
  | .lambda _ => "LambdaExpr"
  | .objectCreation .. => "ObjectCreationExpr"
  | .switchExpression .. => "SwitchExpr"

/-- The role of a construct where code is walked. -/
inductive CodeRole where
  | declaredType
  | anonymousType
  | counted
  | passedThrough
  | foreign
  deriving DecidableEq, Repr

/-- Types and anonymous classes bound the code around them; statements and switch entries count;
expressions and the parts of statements hold code without counting. -/
def codeRole : Construct α → CodeRole
  | .typeDeclaration .. | .enumDeclaration .. => .declaredType
  | .objectCreation _ _ (some _) => .anonymousType
  | .bare .statement | .block _ | .emptyStatement | .expressionStatement _ | .localDeclaration ..
  | .labeledStatement .. | .ifStatement .. | .whileStatement .. | .doStatement ..
  | .forStatement .. | .forEachStatement .. | .assertStatement .. | .breakStatement _
  | .continueStatement _ | .returnStatement _ | .yieldStatement _ | .throwStatement _
  | .synchronizedStatement .. | .tryStatement .. | .switchStatement .. | .constructorCall ..
  | .switchEntry .. => .counted
  | .bare .expression | .plainExpression _ | .lambda _ | .objectCreation _ _ none
  | .switchExpression .. | .variableDeclarator .. | .resource .. | .catchClause .. =>
    .passedThrough
  | .bare .node | .bare .documentable | .packageDeclaration _ | .importDeclaration ..
  | .moduleDirective .. | .moduleDeclaration .. | .compilationUnit .. | .fieldDeclaration ..
  | .callable .. | .initializerBlock .. | .enumConstant .. | .annotationMember .. => .foreign

/-- Whether a documentation comment in front belongs to the construct. -/
def isDocumentable : Construct α → Bool
  | .bare .documentable | .typeDeclaration .. | .enumDeclaration .. | .fieldDeclaration ..
  | .callable .. | .initializerBlock .. | .enumConstant .. | .annotationMember .. => true
  | _ => false

/-- The name a construct declares or refers to, if it has one. -/
def name? : Construct α → Option String
  | .packageDeclaration name | .importDeclaration name _ _ | .moduleDirective _ name
  | .moduleDeclaration name _ _ | .typeDeclaration _ name _ _ | .enumDeclaration name _ _ _
  | .variableDeclarator name _ | .callable _ name _ _ _ | .enumConstant name _ _
  | .annotationMember name _ _ _ | .resource name _ => some name
  | _ => none

/-- The initializer, of a construct that may have one. -/
def initializer? : Construct α → Option (Option α)
  | .variableDeclarator _ initializer | .resource _ initializer => some initializer
  | _ => none

end Construct

end JavaCensus
