import JavaCensus.Error
import JavaCensus.Source.SourceText
import JavaCensus.Syntax.Node
import JavaCensus.Text.Blank

/-!
# Reading small things off a parse tree

Names, types, parameters and modifiers, and the errors of a unit that is being read.
-/
namespace JavaCensus

/-- A unit that is being read: its name, for errors, and its text. -/
structure Reading where
  unit : String
  source : SourceText

abbrev Read := Except Error

namespace Reading

variable (r : Reading)

/-- Refuses the unit because of a tree. -/
def reject {α : Type} (t : ParseTree) (cause : Rejection) : Read α :=
  .error (.rejected r.unit cause (some (r.source.line t)))

def text (t : ParseTree) : String :=
  .ofList (r.source.text t)

/-- The text of a type, with single spaces. -/
def typeText (t : ParseTree) : String :=
  .ofList (Text.squeeze (r.source.text t))

def fieldText (t : ParseTree) (field : String) : Read String :=
  match t.field? field with
  | some c => .ok (r.typeText c)
  | none => r.reject t (.without t.type field)

def isIdentifier (t : ParseTree) : Bool :=
  t.type == "identifier"

def isName (t : ParseTree) : Bool :=
  t.type == "identifier" || t.type == "scoped_identifier"

/-- The first name among the children, or nothing. -/
def qualifiedName (t : ParseTree) : String :=
  match t.namedChildren.find? isName with
  | some c => r.text c
  | none => ""

def optionalIdentifier (t : ParseTree) : Option String :=
  (t.namedChildren.find? isIdentifier).map r.text

def modifiers (t : ParseTree) : List Modifier :=
  let groups := t.children.filter (·.type == "modifiers")
  distinct ((groups.flatMap (·.children)).filterMap fun k => Modifier.ofKeyword? k.type)

/-- A parameter that takes any number of arguments: its type comes first and its name last. -/
def spreadParameter (t : ParseTree) : Read Parameter :=
  let parts := t.namedChildren.filter fun c => !c.isComment && c.type != "modifiers"
  match parts.head?, parts.getLast? with
  | some type, some declarator =>
    .ok ⟨r.typeText type ++ "...", r.text ((declarator.field? "name").getD declarator)⟩
  | _, _ => .error (.mishap .absentPlace)

def formalParameter (t : ParseTree) : Read Parameter := do
  let type ← r.fieldText t "type"
  let dimensions := ((t.field? "dimensions").map r.text).getD ""
  return ⟨type ++ dimensions, ← r.fieldText t "name"⟩

def parameterOf (t : ParseTree) : Read (Option Parameter) :=
  if t.type == "formal_parameter" then some <$> r.formalParameter t
  else if t.type == "spread_parameter" then some <$> r.spreadParameter t
  else .ok none

def parameters : Option ParseTree → Read (List Parameter)
  | none => .ok []
  | some t => do return (← t.namedChildren.mapM r.parameterOf).filterMap id

def node (t : ParseTree) (construct : Construct Node) : Node :=
  .bare (r.source.span t) construct

/-! ## Imports and modules -/

def importDeclaration (t : ParseTree) : Node :=
  let types := t.children.map (·.type)
  r.node t (.importDeclaration (r.qualifiedName t) ("static" ∈ types) ("asterisk" ∈ types))

/-- The text before an ending, if the text has it. -/
def withoutEnding? (ending : List Char) (text : List Char) : Option (List Char) :=
  if ending.isSuffixOf text then some (text.take (text.length - ending.length)) else none

/-- The keyword of a directive, which the type of its tree starts with. -/
def directiveKeyword? (t : ParseTree) : Option String :=
  (withoutEnding? "_module_directive".toList t.type.toList).map .ofList

def directiveNamed (t : ParseTree) (keyword : String) : Read Node :=
  match DirectiveKind.ofKeyword? keyword with
  | some kind => .ok (r.node t (.moduleDirective kind (r.qualifiedName t)))
  | none => r.reject t (.unknownDirective keyword)

/-- A directive, which may be wrapped in a tree of its own. -/
def directive (t : ParseTree) : Read Node :=
  match directiveKeyword? t with
  | some keyword => r.directiveNamed t keyword
  | none =>
    match t.namedChildren.find? fun c => (directiveKeyword? c).isSome with
    | some inner => r.directiveNamed inner ((directiveKeyword? inner).getD "")
    | none => r.directiveNamed t ((t.children.head?.map (·.type)).getD "")

def moduleDeclaration (t : ParseTree) : Read Node := do
  let name := match t.field? "name" with
    | some c => r.text c
    | none => r.qualifiedName t
  let body := ((t.field? "body").map (·.namedChildren)).getD []
  let directives ← (body.filter fun c => !c.isComment).mapM r.directive
  return r.node t (.moduleDeclaration name (t.children.any (·.type == "open")) directives)

end Reading

end JavaCensus
