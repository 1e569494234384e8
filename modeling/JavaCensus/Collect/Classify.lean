import JavaCensus.Syntax.Node
import JavaCensus.Metrics.Element
import JavaCensus.Text.Blank

/-!
# Kinds and names of declarations
-/
namespace JavaCensus

namespace Node

def typeKind (n : Node) : Except Error TypeKind :=
  match n.construct with
  | .typeDeclaration .class .. => .ok .class
  | .typeDeclaration .interface .. => .ok .interface
  | .typeDeclaration .annotationType .. => .ok .annotationType
  | .typeDeclaration (.record _) .. => .ok .record
  | .enumDeclaration .. => .ok .enum
  | .enumConstant _ _ (some _) => .ok .enumConstant
  | .objectCreation _ _ (some _) => .ok .anonymousClass
  | _ => .error (.unclassified n.label .type)

def isInterface (n : Node) : Bool :=
  match n.construct with
  | .typeDeclaration .interface .. => true
  | _ => false

def isAnnotation (n : Node) : Bool :=
  match n.construct with
  | .typeDeclaration .annotationType .. => true
  | _ => false

end Node

/-- The text up to the first occurrence of a character. -/
def upTo (c : Char) (cs : List Char) : List Char :=
  cs.takeWhile (· != c)

/-- The text after the last occurrence of a character. -/
def afterLast (c : Char) (cs : List Char) : List Char :=
  (cs.reverse.takeWhile (· != c)).reverse

/-- The last name of a qualified type name, without type arguments and annotations. -/
def simpleTypeName (typeName : String) : String :=
  match (Text.words (upTo '<' typeName.toList)).getLast? with
  | none => typeName
  | some word => .ofList (afterLast '.' word)

/-- The kind of a method depends on its modifiers first, and then on whether it is an interface
that leaves out the body. -/
def ordinaryMethodKind (modifiers : List Modifier) (hasBody : Bool) (inInterface : Bool) :
    MethodKind :=
  if .default ∈ modifiers then .defaultMethod
  else if .static ∈ modifiers then .staticMethod
  else if .abstract ∈ modifiers then .abstractMethod
  else if .native ∈ modifiers then .nativeMethod
  else if !hasBody && inInterface then .abstractMethod
  else .instanceMethod

/-- A name followed by the types of the parameters. -/
def signature (name : String) (parameters : List Parameter) : String :=
  name ++ "(" ++ ", ".intercalate (parameters.map (·.type)) ++ ")"

namespace Node

/-- The name a node must have for what is asked of it. -/
def requiredName (n : Node) : Except Error String :=
  match n.construct.name? with
  | some name => .ok name
  | none => .error (.mishap .absentPart)

def typeName (n : Node) : Except Error String :=
  match n.construct with
  | .objectCreation type _ _ => .ok ("Anonymous$" ++ simpleTypeName type)
  | _ => n.requiredName

def methodKind (n enclosing : Node) : Except Error MethodKind :=
  match n.construct with
  | .callable .constructor .. => .ok .constructor
  | .initializerBlock _ true => .ok .staticInitializer
  | .initializerBlock _ false => .ok .instanceInitializer
  | .callable (.method _) _ _ body modifiers =>
    .ok (ordinaryMethodKind modifiers body.isSome enclosing.isInterface)
  | _ => .error (.unclassified n.label .method)

def methodName (n : Node) : Except Error String :=
  match n.construct with
  | .initializerBlock _ true => .ok "clinit"
  | .initializerBlock _ false => .ok "init"
  | .callable .constructor name parameters _ _ => .ok (signature name parameters)
  | .callable (.method returnType) name parameters _ _ =>
    .ok (returnType ++ " " ++ signature name parameters)
  | _ => .error (.unclassified n.label .method)

/-- Fields of interfaces and annotations are static without saying so. -/
def fieldKind (n enclosing : Node) : Except Error FieldKind :=
  match n.construct with
  | .enumConstant _ _ none => .ok .enumConstant
  | .annotationMember .. => .ok .annotationElement
  | .fieldDeclaration _ _ modifiers =>
    .ok (if .static ∈ modifiers || enclosing.isInterface || enclosing.isAnnotation
      then .staticField else .instanceField)
  | _ => .error (.unclassified n.label .field)

end Node

end JavaCensus
