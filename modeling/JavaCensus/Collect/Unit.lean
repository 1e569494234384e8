import JavaCensus.Collect.Declaration
import JavaCensus.Log

/-!
# Collecting compilation units

What a unit adds to the census. The comments that no declaration of the unit has claimed go to the
unit itself in the end, so that none is left over.
-/
namespace JavaCensus

open Attribution

/-- An ordinary unit. A package declaration documents its package if the unit has no types. -/
structure OrdinaryUnit (β : Type) where
  package : String
  unit : UnitElement β
  packageComments : β

inductive CollectedUnit (β : Type) where
  | ordinary (u : OrdinaryUnit β)
  | modular (u : ModularUnitElement β)

def CollectedUnit.map {β γ : Type} (f : β → γ) : CollectedUnit β → CollectedUnit γ
  | .ordinary u => .ordinary ⟨u.package, u.unit.map f, f u.packageComments⟩
  | .modular u => .modular (u.map f)

/-- The parts of a compilation unit. -/
structure UnitParts where
  package : Option Node
  imports : List Node
  types : List Node
  module : Option Node

def Node.unitParts (n : Node) : Except Error UnitParts :=
  match n.construct with
  | .compilationUnit package imports types module => .ok ⟨package, imports, types, module⟩
  | _ => .error (.mishap .absentPart)

/-- What is left in the unit, imports first. -/
def claimUnitComments (n : Node) (imports : List Node) : Attribution (List Comment) := do
  let imported ← each imports fun i _ => claimOwn i
  let own ← claimOwn n
  let rest ← claimSubtree n
  return imported.flatten ++ own ++ rest

/-- What a package declaration gives to its unit and to its package. -/
def claimPackageComments (n : Node) (package : Option Node) (hasTypes : Bool) :
    Attribution (List Comment × List Comment) :=
  match package with
  | none => pure ([], [])
  | some p =>
    if hasTypes then return (← claimOwn p, [])
    else do
      let above ← claimAdjacent p n
      let own ← claimOwn p
      return ([], above ++ own)

def packageName (package : Option Node) : Except Error String :=
  match package with
  | none => .ok ""
  | some p => p.requiredName

def collectOrdinaryUnit (n : Node) (name : String) :
    Attribution (OrdinaryUnit (List Comment)) := do
  let parts ← require n.unitParts
  if parts.module.isSome then throw (.unclassified n.label .ordinaryUnit)
  let name ← require (ElementName.of .compilationUnit name)
  let types ← each parts.types fun t _ => collectType t n
  let package ← require (packageName parts.package)
  let (forUnit, forPackage) ← claimPackageComments n parts.package !parts.types.isEmpty
  let rest ← claimUnitComments n parts.imports
  return ⟨package, ⟨name, forUnit ++ rest, types⟩, forPackage⟩

/-- The parts of a module declaration. -/
def Node.moduleParts (n : Node) : Except Error (String × Bool × List Node) :=
  match n.construct with
  | .moduleDeclaration name isOpen directives => .ok (name, isOpen, directives)
  | _ => .error (.mishap .absentPart)

def Node.directiveKind (n : Node) : Except Error DirectiveKind :=
  match n.construct with
  | .moduleDirective kind _ => .ok kind
  | _ => .error (.mishap .absentPart)

def countKind (kind : DirectiveKind) (kinds : List DirectiveKind) : Int :=
  kinds.count kind

def collectModule (n parent : Node) : Attribution (ModuleElement (List Comment)) := do
  let (name, isOpen, directives) ← require n.moduleParts
  let name ← require (ElementName.of .module name)
  let above ← claimAdjacent n parent
  let parts ← each directives fun d _ => do
    let kind ← require d.directiveKind
    let comments ← claimOwn d
    return (kind, comments)
  let own ← claimOwn n
  let kinds := parts.map (·.1)
  return ⟨name, isOpen, countKind .requires kinds, countKind .exports kinds,
    countKind .provides kinds, countKind .uses kinds, countKind .opens kinds,
    above ++ (parts.map (·.2)).flatten ++ own⟩

def collectModularUnit (n : Node) (name : String) :
    Attribution (ModularUnitElement (List Comment)) := do
  let parts ← require n.unitParts
  match parts.module with
  | none => throw (.unclassified n.label .modularUnit)
  | some m =>
    let module ← collectModule m n
    let name ← require (ElementName.of .modularUnit name)
    let rest ← claimUnitComments n parts.imports
    return ⟨name, rest, module⟩

/-- A unit is modular if it declares a module. -/
def collectUnit (n : Node) (name : String) : Attribution (CollectedUnit (List Comment)) := do
  let parts ← require n.unitParts
  if parts.module.isSome then return .modular (← collectModularUnit n name)
  else return .ordinary (← collectOrdinaryUnit n name)

end JavaCensus
