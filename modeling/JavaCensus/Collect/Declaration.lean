import JavaCensus.Collect.Classify
import JavaCensus.Collect.Code

/-!
# Collecting declarations

The element of a declaration holds the comments that it claims. A declaration first claims the
orphans of its parent that are adjacent to it, then its parts are collected, and then it claims
what it holds itself.
-/
namespace JavaCensus

abbrev TypeOf := TypeElement (List Comment)

abbrev MethodOf := MethodElement (List Comment)

abbrev FieldOf := FieldElement (List Comment)

/-- The parts of a type that its members make up. -/
structure MemberParts where
  fields : List FieldOf
  methods : List MethodOf
  innerTypes : List TypeOf

namespace MemberParts

def empty : MemberParts := ⟨[], [], []⟩

def append (a b : MemberParts) : MemberParts :=
  ⟨a.fields ++ b.fields, a.methods ++ b.methods, a.innerTypes ++ b.innerTypes⟩

end MemberParts

/-- How the types within a node are collected: any type that is no larger. -/
abbrev Inner (n : Node) := (t parent : Node) → sizeOf t ≤ sizeOf n → Attribution TypeOf

open Attribution

/-- Walks the code of a node and collects the types met on the way. -/
def collectCode (n parent : Node) (inner : Inner n) : Attribution (Tally TypeOf) :=
  runVisits (visits n parent) fun t p h => inner t p (sizeOf_le_of_mem_visits n parent h)

/-- Walks the code of several parts of a node. -/
def collectArguments (n : Node) (arguments : List Node) (within : ∀ a ∈ arguments, a ∈ n.children)
    (inner : Inner n) : Attribution (Tally TypeOf) := do
  let parts ← each arguments fun a h =>
    collectCode a n fun t p hle =>
      inner t p (Nat.le_trans hle (Nat.le_of_lt (Node.sizeOf_lt_of_mem_children (within a h))))
  return parts.foldl Tally.append Tally.empty

/-- The code of a declaration that is not a type: a body, a default value or an initializer. -/
def Node.code? (n : Node) : Option Node :=
  match n.construct with
  | .callable _ _ _ body _ => body
  | .initializerBlock body _ => some body
  | .annotationMember _ _ default _ => default
  | .variableDeclarator _ initializer => initializer
  | .resource _ initializer => initializer
  | _ => none

theorem Node.mem_children_of_code?_eq_some {n c : Node} (h : n.code? = some c) :
    c ∈ n.children := by
  unfold code? at h
  split at h <;> rename_i e <;> simp_all [children, Construct.children]

/-- Walks the code of a declaration, if it has any. -/
def collectOptionalCode (n : Node) (inner : Inner n) : Attribution (Tally TypeOf) :=
  match h : n.code? with
  | none => pure Tally.empty
  | some c => collectCode c n fun t p hle =>
      inner t p (Nat.le_trans hle
        (Nat.le_of_lt (Node.sizeOf_lt_of_mem_children (Node.mem_children_of_code?_eq_some h))))

/-- A method, constructor or initializer. -/
def collectMethodWith (n enclosing : Node) (inner : Inner n) : Attribution MethodOf := do
  let name ← require n.methodName
  let kind ← require (n.methodKind enclosing)
  let name ← require (ElementName.of .method name)
  let above ← claimAdjacent n enclosing
  let code ← collectOptionalCode n inner
  let own ← claimOwn n
  let rest ← claimSubtree n
  return .mk name kind code.statements (above ++ code.comments ++ own ++ rest) code.types

/-- What a declarator of a field declaration gives: its field, and the types of its initializer. -/
structure DeclaratorParts where
  field : FieldOf
  types : List TypeOf

/-- One variable of a field declaration. The first one claims what stands in front of the whole
declaration. An initializer is one statement, however much code it holds. -/
def collectDeclarator (n declaration enclosing : Node) (isFirst : Bool) (kind : FieldKind)
    (inner : Inner n) : Attribution DeclaratorParts := do
  let name ← require n.requiredName
  let name ← require (ElementName.of .field name)
  let shared ←
    if isFirst then
      let above ← claimAdjacent declaration enclosing
      let attached ← claimAttached declaration
      pure (above ++ attached)
    else pure []
  let above ← claimAdjacent n declaration
  match n.construct.initializer? with
  | none => throw (.mishap .absentPart)
  | some initializer =>
    let code ← collectOptionalCode n inner
    let own ← claimOwn n
    return ⟨⟨name, kind, if initializer.isSome then 1 else 0,
      shared ++ above ++ code.comments ++ own⟩, code.types⟩

/-- The declarators of a field declaration, the first one marked. -/
def collectDeclarators (declaration enclosing : Node) (kind : FieldKind) (declarators : List Node)
    (within : ∀ v ∈ declarators, v ∈ declaration.children) (inner : Inner declaration) :
    Attribution (List DeclaratorParts) :=
  let below (v : Node) (h : v ∈ declarators) : Inner v := fun t p hle =>
    inner t p (Nat.le_trans hle (Nat.le_of_lt (Node.sizeOf_lt_of_mem_children (within v h))))
  match declarators, below with
  | [], _ => pure []
  | v :: vs, below => do
    let first ← collectDeclarator v declaration enclosing true kind (below v (List.mem_cons_self ..))
    let rest ← each vs fun w h =>
      collectDeclarator w declaration enclosing false kind (below w (List.mem_cons_of_mem _ h))
    return first :: rest

/-- Adds the remaining comments of a declaration to its first field. -/
def addToFirst (comments : List Comment) : List FieldOf → List FieldOf
  | [] => []
  | f :: fs => { f with comments := f.comments ++ comments } :: fs

/-- The declarators of a field declaration. -/
def Node.fieldVariables (n : Node) : List Node :=
  match n.construct with
  | .fieldDeclaration _ declarators _ => declarators
  | _ => []

theorem Node.mem_children_of_mem_fieldVariables {n c : Node} (h : c ∈ n.fieldVariables) :
    c ∈ n.children := by
  unfold fieldVariables at h
  split at h
  · rename_i e
    rwa [children, e, Construct.children]
  · simp at h

/-- One field per variable. The comments of the declaration as a whole go to the first. -/
def collectFieldsWith (n enclosing : Node) (inner : Inner n) : Attribution MemberParts := do
  let kind ← require (n.fieldKind enclosing)
  match n.construct with
  | .fieldDeclaration .. =>
    let parts ← collectDeclarators n enclosing kind n.fieldVariables
      (fun _ => Node.mem_children_of_mem_fieldVariables) inner
    let rest ← if parts.isEmpty then pure [] else claimOwn n
    return ⟨addToFirst rest (parts.map (·.field)), [], (parts.map (·.types)).flatten⟩
  | _ => throw (.mishap .absentPart)

/-- The arguments of an enum constant. -/
def Node.constantArguments (n : Node) : List Node :=
  match n.construct with
  | .enumConstant _ arguments _ => arguments
  | _ => []

theorem Node.mem_children_of_mem_constantArguments {n c : Node} (h : c ∈ n.constantArguments) :
    c ∈ n.children := by
  unfold constantArguments at h
  split at h
  · rename_i e
    rw [children, e, Construct.children]
    exact List.mem_append_left _ h
  · simp at h

/-- An enum constant without a body or an annotation element. A default value counts like an
initializer; code in it or in arguments counts nothing. -/
def collectFieldLikeWith (n enclosing : Node) (inner : Inner n) : Attribution MemberParts := do
  let name ← require n.requiredName
  let kind ← require (n.fieldKind enclosing)
  let name ← require (ElementName.of .field name)
  let above ← claimAdjacent n enclosing
  let (statements, code) ← show Attribution (Int × Tally TypeOf) from
    match n.construct with
    | .annotationMember _ _ default _ =>
      return (if default.isSome then 1 else 0, ← collectOptionalCode n inner)
    | _ => return (0, ← collectArguments n n.constantArguments
        (fun _ => Node.mem_children_of_mem_constantArguments) inner)
  let own ← claimOwn n
  return ⟨[⟨name, kind, statements, above ++ code.comments ++ own⟩], [], code.types⟩

/-- The members of a type, a bodied enum constant or an anonymous class, enum constants first. -/
def Node.typeMembers (n : Node) : List Node :=
  match n.construct with
  | .typeDeclaration _ _ _ members => members
  | .enumDeclaration _ _ constants members => constants ++ members
  | .enumConstant _ _ body => body.getD []
  | .objectCreation _ _ body => body.getD []
  | _ => []

theorem Node.mem_children_of_mem_typeMembers {n c : Node} (h : c ∈ n.typeMembers) :
    c ∈ n.children := by
  unfold typeMembers at h
  split at h <;> rename_i e <;> simp_all [children, Construct.children]

/-- What a member adds to its type. -/
def collectMemberWith (n enclosing : Node) (inner : Inner n) : Attribution MemberParts :=
  match n.construct with
  | .fieldDeclaration .. => collectFieldsWith n enclosing inner
  | .callable (.method _) .. | .callable .constructor .. | .initializerBlock .. =>
    return ⟨[], [← collectMethodWith n enclosing inner], []⟩
  | .enumConstant _ _ none | .annotationMember .. => collectFieldLikeWith n enclosing inner
  | .enumConstant _ _ (some _) | .typeDeclaration .. | .enumDeclaration .. =>
    return ⟨[], [], [← inner n enclosing (Nat.le_refl _)]⟩
  | _ => throw (.unclassified n.label .typeMember)

/-- A type declaration, an enum constant with a body or an anonymous class. -/
def collectType (n parent : Node) : Attribution TypeOf := do
  let name ← require n.typeName
  let kind ← require n.typeKind
  let name ← require (ElementName.of .type name)
  let above ← claimAdjacent n parent
  let arguments ← each n.constantArguments fun a h => collectCode a n fun t p _ =>
    have := Node.sizeOf_lt_of_mem_children (Node.mem_children_of_mem_constantArguments h)
    collectType t p
  let code := arguments.foldl Tally.append Tally.empty
  let members ← each n.typeMembers fun m h => collectMemberWith m n fun t p _ =>
    have := Node.sizeOf_lt_of_mem_children (Node.mem_children_of_mem_typeMembers h)
    collectType t p
  let parts := members.foldl MemberParts.append MemberParts.empty
  let own ← claimOwn n
  return .mk name kind (above ++ code.comments ++ own) parts.fields parts.methods
    (code.types ++ parts.innerTypes)
termination_by n
decreasing_by all_goals omega

def collectMethod (n enclosing : Node) : Attribution MethodOf :=
  collectMethodWith n enclosing fun t p _ => collectType t p

def collectFields (n enclosing : Node) : Attribution MemberParts :=
  collectFieldsWith n enclosing fun t p _ => collectType t p

def collectFieldLike (n enclosing : Node) : Attribution MemberParts :=
  collectFieldLikeWith n enclosing fun t p _ => collectType t p

def collectMember (n enclosing : Node) : Attribution MemberParts :=
  collectMemberWith n enclosing fun t p _ => collectType t p

/-- The types within a node are collected by `collectType` throughout. -/
theorem collectType_eq (n parent : Node) : collectType n parent = (do
    let name ← require n.typeName
    let kind ← require n.typeKind
    let name ← require (ElementName.of .type name)
    let above ← claimAdjacent n parent
    let arguments ← each n.constantArguments fun a _ =>
      collectCode a n fun t p _ => collectType t p
    let code := arguments.foldl Tally.append Tally.empty
    let members ← each n.typeMembers fun m _ => collectMember m n
    let parts := members.foldl MemberParts.append MemberParts.empty
    let own ← claimOwn n
    return .mk name kind (above ++ code.comments ++ own) parts.fields parts.methods
      (code.types ++ parts.innerTypes)) := by
  rw [collectType]
  rfl

end JavaCensus
