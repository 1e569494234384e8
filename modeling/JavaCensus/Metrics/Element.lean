import JavaCensus.Error
import JavaCensus.Metrics.CommentCounts

/-!
# Metrics elements

The tree of counted elements. What an element holds of comments is of some type `β`: the comments
themselves while they are being attributed, their counts in a finished tree.
-/
namespace JavaCensus

/-- The name of an element, never empty. -/
structure ElementName where
  text : String
  ne_empty : text ≠ ""
  deriving DecidableEq, Repr

/-- Names an element, or fails for want of a name. -/
def ElementName.of (element : Named) (text : String) : Except Error ElementName :=
  if h : text = "" then .error (.mishap (.unnamed element)) else .ok ⟨text, h⟩

inductive TypeKind where
  | «class» | interface | enum | enumConstant | annotationType | anonymousClass | record
  deriving DecidableEq, Repr

inductive MethodKind where
  | constructor | instanceInitializer | staticInitializer | instanceMethod | staticMethod
  | abstractMethod | defaultMethod | nativeMethod
  deriving DecidableEq, Repr

inductive FieldKind where
  | staticField | instanceField | enumConstant | annotationElement
  deriving DecidableEq, Repr

def TypeKind.text : TypeKind → String
  | .class => "class"
  | .interface => "interface"
  | .enum => "enum"
  | .enumConstant => "enum_constant"
  | .annotationType => "annotation"
  | .anonymousClass => "anonymous_class"
  | .record => "record"

def MethodKind.text : MethodKind → String
  | .constructor => "constructor"
  | .instanceInitializer => "instance_initializer"
  | .staticInitializer => "static_initializer"
  | .instanceMethod => "instance_method"
  | .staticMethod => "static_method"
  | .abstractMethod => "abstract_method"
  | .defaultMethod => "default_method"
  | .nativeMethod => "native_method"

def FieldKind.text : FieldKind → String
  | .staticField => "static_field"
  | .instanceField => "instance_field"
  | .enumConstant => "enum_constant"
  | .annotationElement => "annotation_type_element"

/-- A variable, a constant without a body or an annotation element. -/
structure FieldElement (β : Type) where
  name : ElementName
  kind : FieldKind
  statements : Int
  comments : β

mutual

/-- A type, with what its members declare. -/
inductive TypeElement (β : Type) where
  | mk (name : ElementName) (kind : TypeKind) (comments : β) (fields : List (FieldElement β))
      (methods : List (MethodElement β)) (innerTypes : List (TypeElement β))

/-- A method, constructor or initializer, with the types its body declares. -/
inductive MethodElement (β : Type) where
  | mk (name : ElementName) (kind : MethodKind) (statements : Int) (comments : β)
      (localTypes : List (TypeElement β))

end

namespace TypeElement

variable {β : Type}

def name : TypeElement β → ElementName
  | mk name _ _ _ _ _ => name

def kind : TypeElement β → TypeKind
  | mk _ kind _ _ _ _ => kind

def comments : TypeElement β → β
  | mk _ _ comments _ _ _ => comments

def fields : TypeElement β → List (FieldElement β)
  | mk _ _ _ fields _ _ => fields

def methods : TypeElement β → List (MethodElement β)
  | mk _ _ _ _ methods _ => methods

def innerTypes : TypeElement β → List (TypeElement β)
  | mk _ _ _ _ _ innerTypes => innerTypes

end TypeElement

namespace MethodElement

variable {β : Type}

def name : MethodElement β → ElementName
  | mk name _ _ _ _ => name

def kind : MethodElement β → MethodKind
  | mk _ kind _ _ _ => kind

def statements : MethodElement β → Int
  | mk _ _ statements _ _ => statements

def comments : MethodElement β → β
  | mk _ _ _ comments _ => comments

def localTypes : MethodElement β → List (TypeElement β)
  | mk _ _ _ _ localTypes => localTypes

end MethodElement

/-- An ordinary source file. -/
structure UnitElement (β : Type) where
  name : ElementName
  comments : β
  types : List (TypeElement β)

structure ModuleElement (β : Type) where
  name : ElementName
  isOpen : Bool
  «requires» : Int
  «exports» : Int
  «provides» : Int
  «uses» : Int
  «opens» : Int
  comments : β

/-- A source file that declares a module. -/
structure ModularUnitElement (β : Type) where
  name : ElementName
  comments : β
  module : ModuleElement β

/-- The empty name stands for the default package. -/
structure PackageElement (β : Type) where
  name : String
  comments : β
  units : List (UnitElement β)

section Map

variable {β γ : Type} (f : β → γ)

def FieldElement.map (e : FieldElement β) : FieldElement γ :=
  ⟨e.name, e.kind, e.statements, f e.comments⟩

mutual

def TypeElement.map : TypeElement β → TypeElement γ
  | .mk name kind comments fields methods innerTypes =>
    .mk name kind (f comments) (fields.map (·.map f)) (MethodElement.mapAll methods)
      (TypeElement.mapAll innerTypes)

def TypeElement.mapAll : List (TypeElement β) → List (TypeElement γ)
  | [] => []
  | t :: ts => t.map :: TypeElement.mapAll ts

def MethodElement.map : MethodElement β → MethodElement γ
  | .mk name kind statements comments localTypes =>
    .mk name kind statements (f comments) (TypeElement.mapAll localTypes)

def MethodElement.mapAll : List (MethodElement β) → List (MethodElement γ)
  | [] => []
  | m :: ms => m.map :: MethodElement.mapAll ms

end

theorem TypeElement.mapAll_eq (ts : List (TypeElement β)) :
    TypeElement.mapAll f ts = ts.map (·.map f) := by
  induction ts with
  | nil => rfl
  | cons t ts ih => rw [TypeElement.mapAll, ih, List.map_cons]

theorem MethodElement.mapAll_eq (ms : List (MethodElement β)) :
    MethodElement.mapAll f ms = ms.map (·.map f) := by
  induction ms with
  | nil => rfl
  | cons m ms ih => rw [MethodElement.mapAll, ih, List.map_cons]

def UnitElement.map (u : UnitElement β) : UnitElement γ :=
  ⟨u.name, f u.comments, u.types.map (·.map f)⟩

def ModuleElement.map (m : ModuleElement β) : ModuleElement γ :=
  { m with comments := f m.comments }

def ModularUnitElement.map (u : ModularUnitElement β) : ModularUnitElement γ :=
  ⟨u.name, f u.comments, u.module.map f⟩

end Map

end JavaCensus
