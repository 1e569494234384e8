import JavaCensus.Source.Convert
import JavaCensus.Syntax.Placement
import JavaCensus.Log

/-!
# Reading compilation units

A parse tree that is admitted becomes a compilation unit with every comment of the source
placed on some node.
-/
namespace JavaCensus

/-- What a child of the root is read as. -/
inductive TopLevel where
  | package (n : Node)
  | «import» (n : Node)
  | module (n : Node)
  | type (n : Node)

namespace TopLevel

def package? : TopLevel → Option Node
  | .package n => some n
  | _ => none

def import? : TopLevel → Option Node
  | .import n => some n
  | _ => none

def module? : TopLevel → Option Node
  | .module n => some n
  | _ => none

def type? : TopLevel → Option Node
  | .type n => some n
  | _ => none

end TopLevel

namespace Reading

variable (r : Reading)

def topLevel (t : ParseTree) : Read TopLevel :=
  if t.isTypeDeclaration then .type <$> r.typeDeclaration t
  else match t.type with
  | "package_declaration" =>
    .ok (.package (r.node t (.packageDeclaration (r.qualifiedName t))))
  | "import_declaration" => .ok (.import (r.importDeclaration t))
  | "module_declaration" => .module <$> r.moduleDeclaration t
  | _ => r.reject t (.outsideType t.type)

/-- The unit spans the whole source from its first line on. -/
def unitSpan (root : ParseTree) : Span :=
  ⟨⟨1, 1⟩, (r.source.span root).stop⟩

/-- Puts a unit together; of several package or module declarations the last one counts. -/
def assemble (root : ParseTree) (parts : List TopLevel) : Read Node :=
  let package := (parts.filterMap TopLevel.package?).getLast?
  let module := (parts.filterMap TopLevel.module?).getLast?
  let types := parts.filterMap TopLevel.type?
  if module.isSome && (!types.isEmpty || package.isSome) then
    .error (.rejected r.unit .sharedModule none)
  else
    .ok (.bare (r.unitSpan root)
      (.compilationUnit package (parts.filterMap TopLevel.import?) types module))

/-- The unit of a parse tree, without its comments. -/
def unitOf (level : LanguageLevel) (preview : Bool) (parse : Parse) : Read Node := do
  r.checkRepairs parse
  r.checkFeatures level preview parse.root
  let children := parse.root.namedChildren.filter fun c => !c.isComment
  r.assemble parse.root (← children.mapM r.topLevel)

end Reading

/-- A unit that has been read, with its comments in the order of their starts. -/
structure ReadUnit where
  unit : Node
  comments : List Comment

/-- Reads a unit and places its comments. -/
def readUnit (name : String) (level : LanguageLevel) (preview : Bool) (source : SourceText)
    (parse : Parse) : Read ReadUnit := do
  let r : Reading := ⟨name, source⟩
  let unit ← r.unitOf level preview parse
  let comments := r.comments parse.root
  return ⟨unit.place comments, sortBy Comment.startsBefore comments⟩

def Node.typeCount (n : Node) : Nat :=
  match n.construct with
  | .compilationUnit _ _ types _ => types.length
  | _ => 0

def ReadUnit.logRecord (u : ReadUnit) (name : String) : LogRecord :=
  .debug ("Parsed " ++ name ++ ": " ++ toString u.unit.typeCount ++ " types, " ++
    toString u.comments.length ++ " comments")

end JavaCensus
