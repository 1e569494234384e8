import JavaCensus.Json.Access
import JavaCensus.Metrics.Part

/-!
# Metrics trees as documents

An element is an object; its counts of comments are an array of eight numbers. Reading builds the
elements inside another before that one, so the innermost missing name is the one that is told.
-/
namespace JavaCensus

namespace CommentCounts

def toList (c : CommentCounts) : List Int :=
  [c.lineComments, c.lineCommentsLength, c.blockComments, c.blockCommentLines,
    c.blockCommentsLength, c.docComments, c.docCommentLines, c.docCommentsLength]

def toJson (c : CommentCounts) : Json :=
  .array (c.toList.map .int)

/-- Counts that are left out are zero. -/
def ofJson (j : Json) : CommentCounts :=
  let n (i : Nat) : Int := (j.element i).toInt
  ⟨n 0, n 1, n 2, n 3, n 4, n 5, n 6, n 7⟩

end CommentCounts

def Totals.toJson (t : Totals) : Json :=
  .array (([t.modularUnits, t.packages, t.units, t.types, t.methods, t.fields, t.statements] ++
    t.comments.toList).map .int)

/-- The counts of an element's comments. -/
def countsIn (j : Json) : CommentCounts :=
  .ofJson (j.member "comments")

def FieldKind.ofText (text : String) : FieldKind :=
  ([staticField, instanceField, enumConstant, annotationElement].find? (·.text == text)).getD
    .instanceField

def MethodKind.ofText (text : String) : MethodKind :=
  ([constructor, instanceInitializer, staticInitializer, instanceMethod, staticMethod,
    abstractMethod, defaultMethod, nativeMethod].find? (·.text == text)).getD .instanceMethod

def TypeKind.ofText (text : String) : TypeKind :=
  ([.class, interface, enum, enumConstant, annotationType, anonymousClass, record].find?
    (·.text == text)).getD .class

/-! ## Writing -/

def FieldElement.toJson (f : FieldElement CommentCounts) : Json :=
  .object [("name", .string f.name.text), ("kind", .string f.kind.text),
    ("statements", .int f.statements), ("comments", f.comments.toJson)]

mutual

def TypeElement.toJson : TypeElement CommentCounts → Json
  | .mk name kind comments fields methods innerTypes =>
    .object [("name", .string name.text), ("kind", .string kind.text),
      ("comments", comments.toJson), ("fields", .array (fields.map (·.toJson))),
      ("methods", .array (MethodElement.toJsons methods)),
      ("inner_types", .array (TypeElement.toJsons innerTypes))]

def TypeElement.toJsons : List (TypeElement CommentCounts) → List Json
  | [] => []
  | t :: ts => t.toJson :: TypeElement.toJsons ts

def MethodElement.toJson : MethodElement CommentCounts → Json
  | .mk name kind statements comments localTypes =>
    .object [("name", .string name.text), ("kind", .string kind.text),
      ("statements", .int statements), ("comments", comments.toJson),
      ("local_types", .array (TypeElement.toJsons localTypes))]

def MethodElement.toJsons : List (MethodElement CommentCounts) → List Json
  | [] => []
  | m :: ms => m.toJson :: MethodElement.toJsons ms

end

def UnitElement.toJson (u : UnitElement CommentCounts) : Json :=
  .object [("name", .string u.name.text), ("comments", u.comments.toJson),
    ("types", .array (TypeElement.toJsons u.types))]

def ModuleElement.toJson (m : ModuleElement CommentCounts) : Json :=
  .object [("name", .string m.name.text), ("is_open", .bool m.isOpen),
    ("requires", .int m.requires), ("exports", .int m.exports), ("provides", .int m.provides),
    ("uses", .int m.uses), ("opens", .int m.opens), ("comments", m.comments.toJson)]

def ModularUnitElement.toJson (u : ModularUnit) : Json :=
  .object [("name", .string u.name.text), ("comments", u.comments.toJson),
    ("module", u.module.toJson)]

def PackageElement.toJson (p : Package) : Json :=
  .object [("name", .string p.name), ("comments", p.comments.toJson),
    ("compilation_units", .array (p.units.map (·.toJson)))]

def Census.toJson (c : Census) : Json :=
  .object [("modular_compilation_units", .array (c.modularUnits.map (·.toJson))),
    ("packages", .array (c.packages.map (·.toJson)))]

/-! ## Reading -/

def FieldElement.ofJson (j : Json) : Except Error (FieldElement CommentCounts) := do
  let name ← ElementName.of .field (j.textOr "name" "")
  return ⟨name, .ofText (j.textOr "kind" ""), (j.member "statements").toInt, countsIn j⟩

/-- What the members of a type declare. -/
structure TypeParts where
  fields : List (FieldElement CommentCounts)
  methods : List (MethodElement CommentCounts)
  innerTypes : List (TypeElement CommentCounts)

/-- The type that an object and its parts describe. -/
def TypeElement.ofObject (j : Json) (parts : TypeParts) :
    Except Error (TypeElement CommentCounts) := do
  let name ← ElementName.of .type (j.textOr "name" "")
  return .mk name (.ofText (j.textOr "kind" "")) (countsIn j) parts.fields parts.methods
    parts.innerTypes

def MethodElement.ofObject (j : Json) (localTypes : List (TypeElement CommentCounts)) :
    Except Error (MethodElement CommentCounts) := do
  let name ← ElementName.of .method (j.textOr "name" "")
  return .mk name (.ofText (j.textOr "kind" "")) (j.member "statements").toInt (countsIn j)
    localTypes

mutual

def TypeElement.ofJson : Json → Except Error (TypeElement CommentCounts)
  | .object ms => do TypeElement.ofObject (.object ms) (← typeParts ms)
  | j => TypeElement.ofObject j ⟨[], [], []⟩

def MethodElement.ofJson : Json → Except Error (MethodElement CommentCounts)
  | .object ms => do MethodElement.ofObject (.object ms) (← localTypes ms)
  | j => MethodElement.ofObject j []

/-- The parts of a type, in the order of its members. -/
def typeParts : List (String × Json) → Except Error TypeParts
  | [] => .ok ⟨[], [], []⟩
  | (key, .array es) :: ms =>
    if key = "fields" then do
      let fields ← es.mapM FieldElement.ofJson
      return { ← typeParts ms with fields }
    else if key = "methods" then do
      let methods ← methodsOf es
      return { ← typeParts ms with methods }
    else if key = "inner_types" then do
      let innerTypes ← typesOf es
      return { ← typeParts ms with innerTypes }
    else typeParts ms
  | _ :: ms => typeParts ms

def localTypes : List (String × Json) → Except Error (List (TypeElement CommentCounts))
  | [] => .ok []
  | (key, .array es) :: ms => if key = "local_types" then typesOf es else localTypes ms
  | _ :: ms => localTypes ms

def typesOf : List Json → Except Error (List (TypeElement CommentCounts))
  | [] => .ok []
  | j :: js => do
    let t ← TypeElement.ofJson j
    return t :: (← typesOf js)

def methodsOf : List Json → Except Error (List (MethodElement CommentCounts))
  | [] => .ok []
  | j :: js => do
    let m ← MethodElement.ofJson j
    return m :: (← methodsOf js)

end

def UnitElement.ofJson (j : Json) : Except Error (UnitElement CommentCounts) := do
  let types ← typesOf (j.listOf "types")
  let name ← ElementName.of .compilationUnit (j.textOr "name" "")
  return ⟨name, countsIn j, types⟩

def ModuleElement.ofJson (j : Json) : Except Error (ModuleElement CommentCounts) := do
  let name ← ElementName.of .module (j.textOr "name" "")
  let n (key : String) : Int := (j.member key).toInt
  return ⟨name, (j.member "is_open").toBool, n "requires", n "exports", n "provides", n "uses",
    n "opens", countsIn j⟩

def ModularUnitElement.ofJson (j : Json) : Except Error ModularUnit := do
  let module ← ModuleElement.ofJson (j.member "module")
  let name ← ElementName.of .modularUnit (j.textOr "name" "")
  return ⟨name, countsIn j, module⟩

/-- The name of a package may be empty, but not null. -/
def PackageElement.nameOf (j : Json) : Except Error String :=
  match j.member? "name" with
  | some (.string s) => .ok s
  | none => .ok ""
  | some _ => .error (.mishap (.unnamed .package))

def PackageElement.ofJson (j : Json) : Except Error Package := do
  let units ← (j.listOf "compilation_units").mapM UnitElement.ofJson
  return ⟨← PackageElement.nameOf j, countsIn j, units⟩

namespace Census

/-- Takes over what a member of the root holds. -/
def takeMember (c : Census) (key : String) (value : Json) : Except Error Census :=
  if key = "modular_compilation_units" then do
    return c.addModularUnits (← value.elements.mapM ModularUnitElement.ofJson)
  else if key = "packages" then
    value.elements.foldlM (fun c p => do
      let p ← PackageElement.ofJson p
      return c.extendPackage p.name p.comments p.units) c
  else .ok c

def ofJson (j : Json) : Except Error Census :=
  j.members.foldlM (fun c (key, value) => c.takeMember key value) empty

end Census

namespace MetricsPart

/-- Reads an element of the named level; counters are empty. -/
def ofJson (level : String) (j : Json) : Except Error MetricsPart :=
  match level with
  | "field" => field <$> FieldElement.ofJson j
  | "method" => method <$> MethodElement.ofJson j
  | "type" => type <$> TypeElement.ofJson j
  | "unit" => unit <$> UnitElement.ofJson j
  | "module" => module <$> ModuleElement.ofJson j
  | "modular_unit" => modularUnit <$> ModularUnitElement.ofJson j
  | "package" => package <$> PackageElement.ofJson j
  | "comments" => .ok (commentCounter 0)
  | "statements" => .ok (statementCounter 0)
  | _ => root <$> Census.ofJson j

end MetricsPart

end JavaCensus
