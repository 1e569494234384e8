import JavaCensus.Proofs.Runs

/-!
# What collecting does

One lemma for each level of declarations: the steps that a successful run consists of, and the
element that it gives. Later modules cite these and do not unfold the collecting functions.
-/
namespace JavaCensus

open Attribution

theorem ElementName.text_of {element : Named} {text : String} {name : ElementName}
    (h : ElementName.of element text = .ok name) : name.text = text := by
  unfold ElementName.of at h
  split at h
  · cases h
  · cases h
    rfl

/-! ## Code -/

/-- One event of a walk, carried out on its own. -/
def runVisit {τ : Type} (f : Node → Node → Attribution τ) : Visit → Attribution (Tally τ)
  | .count k => pure ⟨k, [], []⟩
  | .claim n => return ⟨0, ← claimOwn n, []⟩
  | .type t p => return ⟨0, [], [← f t p]⟩
  | .fail e => throw e

/-- All that the parts of a walk gather. -/
def Tally.gather {τ : Type} (parts : List (Tally τ)) : Tally τ :=
  ⟨(parts.map (·.statements)).sum, parts.flatMap (·.comments), parts.flatMap (·.types)⟩

theorem Tally.foldl_append {τ : Type} (parts : List (Tally τ)) :
    parts.foldl Tally.append Tally.empty = Tally.gather parts := by
  have step (a : Tally τ) (parts : List (Tally τ)) :
      parts.foldl Tally.append a = a.append (Tally.gather parts) := by
    induction parts generalizing a with
    | nil => simp [append, gather]
    | cons b parts ih => simp [ih, append, gather, Nat.add_assoc]
  rw [step]
  simp [append, empty]

/-- The events of a walk are carried out one after the other. -/
theorem runVisits_eq {τ : Type} (f : Node → Node → Attribution τ) (events : List Visit) :
    (runVisits events fun t p _ => f t p) = (do
      let parts ← each events fun e _ => runVisit f e
      return parts.foldl Tally.append Tally.empty) := by
  unfold runVisits
  congr 1
  congr 1
  funext e h
  cases e <;> rfl

/-- Walks the code of a node and collects the types met on the way. -/
def collectInside (n parent : Node) : Attribution (Tally TypeOf) :=
  collectCode n parent fun t p _ => collectType t p

theorem collectInside_eq (n parent : Node) : collectInside n parent = (do
    let parts ← each (visits n parent) fun e _ => runVisit collectType e
    return parts.foldl Tally.append Tally.empty) :=
  runVisits_eq collectType (visits n parent)

theorem returns_collectInside {n parent : Node} {code : Tally TypeOf} {l m : Ledger} :
    (collectInside n parent).Returns l code m ↔
      ∃ parts, (each (visits n parent) fun e _ => runVisit collectType e).Returns l parts m ∧
        code = Tally.gather parts := by
  simp only [collectInside_eq, returns_bind, returns_pure, Tally.foldl_append]
  constructor
  · rintro ⟨parts, _, h, rfl, rfl⟩
    exact ⟨parts, h, rfl⟩
  · rintro ⟨parts, h, rfl⟩
    exact ⟨parts, m, h, rfl, rfl⟩

/-- The code that a declaration is collected with: its body, its default value, its initializer
or the arguments of a constant. -/
def Node.codeRoots (n : Node) : List Node :=
  n.code?.toList ++ n.constantArguments

theorem Node.mem_children_of_mem_codeRoots {n c : Node} (h : c ∈ n.codeRoots) :
    c ∈ n.children := by
  rcases List.mem_append.1 h with h | h
  · exact mem_children_of_code?_eq_some (Option.mem_toList.1 h)
  · exact mem_children_of_mem_constantArguments h

/-- Walks the code that a declaration is collected with. -/
def collectRoots (n : Node) : Attribution (Tally TypeOf) := do
  let parts ← each n.codeRoots fun c _ => collectInside c n
  return Tally.gather parts

theorem returns_collectRoots {n : Node} {code : Tally TypeOf} {l m : Ledger} :
    (collectRoots n).Returns l code m ↔
      ∃ parts, (each n.codeRoots fun c _ => collectInside c n).Returns l parts m ∧
        code = Tally.gather parts := by
  simp only [collectRoots, returns_bind, returns_pure]
  constructor
  · rintro ⟨parts, _, h, rfl, rfl⟩
    exact ⟨parts, h, rfl⟩
  · rintro ⟨parts, h, rfl⟩
    exact ⟨parts, m, h, rfl, rfl⟩

/-- Where a declaration has no arguments, its code is the one part that may be there. -/
theorem collectOptionalCode_returns {n : Node} {code : Tally TypeOf} {l m : Ledger}
    (hn : n.constantArguments = [])
    (h : (collectOptionalCode n fun t p _ => collectType t p).Returns l code m) :
    (collectRoots n).Returns l code m := by
  rw [returns_collectRoots, Node.codeRoots, hn]
  unfold collectOptionalCode at h
  split at h
  · rename_i hc
    obtain ⟨rfl, rfl⟩ := returns_pure.1 h
    rw [hc]
    exact ⟨[], returns_each_nil.2 ⟨rfl, rfl⟩, by simp [Tally.gather, Tally.empty]⟩
  · rename_i c hc
    have inside : (collectInside c n).Returns l code m := h
    rw [hc]
    exact ⟨[code], returns_each_cons.2 ⟨code, m, [], inside, returns_each_nil.2 ⟨rfl, rfl⟩, rfl⟩,
      by simp [Tally.gather]⟩

theorem collectArguments_returns {n : Node} {code : Tally TypeOf} {l m : Ledger}
    (hn : n.code? = none) {within : ∀ a ∈ n.constantArguments, a ∈ n.children}
    (h : (collectArguments n n.constantArguments within fun t p _ => collectType t p).Returns
      l code m) : (collectRoots n).Returns l code m := by
  unfold collectArguments at h
  simp only [returns_bind, returns_pure, Tally.foldl_append] at h
  obtain ⟨parts, _, h, rfl, rfl⟩ := h
  rw [returns_collectRoots, Node.codeRoots, hn]
  exact ⟨parts, h, rfl⟩

/-! ## Methods -/

theorem Node.constantArguments_of_methodName {n : Node} {name : String}
    (h : n.methodName = .ok name) : n.constantArguments = [] := by
  unfold methodName at h
  unfold constantArguments
  split at h <;> simp_all

theorem collectMethod_returns {n enclosing : Node} {e : MethodOf} {l m : Ledger}
    (h : (collectMethod n enclosing).Returns l e m) :
    ∃ name kind above l₁ code l₂ own l₃ rest,
      n.methodName = .ok name.text ∧ n.methodKind enclosing = .ok kind ∧
      (claimAdjacent n enclosing).Returns l above l₁ ∧ (collectRoots n).Returns l₁ code l₂ ∧
      (claimOwn n).Returns l₂ own l₃ ∧ (claimSubtree n).Returns l₃ rest m ∧
      e = .mk name kind code.statements (above ++ code.comments ++ own ++ rest) code.types := by
  unfold collectMethod collectMethodWith at h
  simp only [returns_bind, returns_require, returns_pure] at h
  obtain ⟨text, _, ⟨htext, rfl⟩, kind, _, ⟨hkind, rfl⟩, name, _, ⟨hname, rfl⟩, above, l₁, habove,
    code, l₂, hcode, own, l₃, hown, rest, _, hrest, rfl, rfl⟩ := h
  have hcode := collectOptionalCode_returns (Node.constantArguments_of_methodName htext) hcode
  rw [← ElementName.text_of hname] at htext
  exact ⟨name, kind, above, l₁, code, l₂, own, l₃, rest, htext, hkind, habove, hcode, hown, hrest,
    rfl⟩

/-! ## Fields -/

/-- What stands in front of a whole declaration goes to its first variable. -/
def claimShared (declaration enclosing : Node) : Bool → Attribution (List Comment)
  | true => do
    let above ← claimAdjacent declaration enclosing
    let attached ← claimAttached declaration
    return above ++ attached
  | false => pure []

/-- One variable of a field declaration, with its number among the variables. -/
def collectVariable (declaration enclosing : Node) (kind : FieldKind) (v : Node × Nat) :
    Attribution DeclaratorParts :=
  collectDeclarator v.1 declaration enclosing (v.2 == 0) kind fun t p _ => collectType t p

theorem Node.constantArguments_of_initializer? {n : Node} {initializer : Option Node}
    (h : n.construct.initializer? = some initializer) : n.constantArguments = [] := by
  unfold Construct.initializer? at h
  unfold constantArguments
  split at h <;> simp_all

theorem collectVariable_eq (declaration enclosing : Node) (kind : FieldKind) (v : Node × Nat) :
    collectVariable declaration enclosing kind v = (do
      let text ← require v.1.requiredName
      let name ← require (ElementName.of .field text)
      let shared ← claimShared declaration enclosing (v.2 == 0)
      let above ← claimAdjacent v.1 declaration
      v.1.construct.initializer?.elim (throw (.mishap .absentPart)) fun initializer => do
        let code ← collectOptionalCode v.1 fun t p _ => collectType t p
        let own ← claimOwn v.1
        return ⟨⟨name, kind, if initializer.isSome then 1 else 0,
          shared ++ above ++ code.comments ++ own⟩, code.types⟩) := by
  unfold collectVariable collectDeclarator
  cases v.2 == 0 <;> cases v.1.construct.initializer? <;> rfl

theorem collectVariable_returns {declaration enclosing : Node} {kind : FieldKind}
    {v : Node × Nat} {e : DeclaratorParts} {l m : Ledger}
    (h : (collectVariable declaration enclosing kind v).Returns l e m) :
    ∃ name shared l₁ above l₂ initializer code l₃ own,
      v.1.requiredName = .ok name.text ∧
      (claimShared declaration enclosing (v.2 == 0)).Returns l shared l₁ ∧
      (claimAdjacent v.1 declaration).Returns l₁ above l₂ ∧
      v.1.construct.initializer? = some initializer ∧
      (collectRoots v.1).Returns l₂ code l₃ ∧ (claimOwn v.1).Returns l₃ own m ∧
      e = ⟨⟨name, kind, if initializer.isSome then 1 else 0,
        shared ++ above ++ code.comments ++ own⟩, code.types⟩ := by
  rw [collectVariable_eq] at h
  simp only [returns_bind, returns_require] at h
  obtain ⟨text, _, ⟨htext, rfl⟩, name, _, ⟨hname, rfl⟩, shared, l₁, hshared, above, l₂, habove,
    h⟩ := h
  cases hinit : v.1.construct.initializer? with
  | none =>
    rw [hinit] at h
    exact absurd h not_returns_throw
  | some initializer =>
    rw [hinit] at h
    simp only [Option.elim_some, returns_bind, returns_pure] at h
    obtain ⟨code, l₃, hcode, own, _, hown, rfl, rfl⟩ := h
    have hcode := collectOptionalCode_returns (Node.constantArguments_of_initializer? hinit) hcode
    rw [← ElementName.text_of hname] at htext
    exact ⟨name, shared, l₁, above, l₂, initializer, code, l₃, own, htext, hshared, habove, rfl,
      hcode, hown, rfl⟩

/-- The variables are collected in turn, and only the first one is marked. -/
theorem collectDeclarators_eq (declaration enclosing : Node) (kind : FieldKind)
    (declarators : List Node) (within : ∀ v ∈ declarators, v ∈ declaration.children) :
    (collectDeclarators declaration enclosing kind declarators within
        fun t p _ => collectType t p) =
      each declarators.zipIdx fun v _ => collectVariable declaration enclosing kind v := by
  have rest (vs : List Node) (k : Nat) :
      (each vs fun v _ => collectDeclarator v declaration enclosing false kind
        fun t p _ => collectType t p) =
      each (vs.zipIdx (k + 1)) fun v _ => collectVariable declaration enclosing kind v := by
    induction vs generalizing k with
    | nil => rfl
    | cons v vs ih =>
      simp only [List.zipIdx_cons, each, ih (k + 1)]
      rfl
  cases declarators with
  | nil => rfl
  | cons v vs =>
    simp only [List.zipIdx_cons, each, ← rest vs 0]
    rfl

theorem collectFields_returns {n enclosing : Node} {e : MemberParts} {l m : Ledger}
    (h : (collectFields n enclosing).Returns l e m) :
    ∃ kind parts l₁ rest,
      n.fieldKind enclosing = .ok kind ∧
      (each n.fieldVariables.zipIdx fun v _ => collectVariable n enclosing kind v).Returns
        l parts l₁ ∧
      (if parts.isEmpty then pure [] else claimOwn n).Returns l₁ rest m ∧
      e = ⟨addToFirst rest (parts.map (·.field)), [], parts.flatMap (·.types)⟩ := by
  unfold collectFields collectFieldsWith at h
  simp only [returns_bind, returns_require] at h
  obtain ⟨kind, _, ⟨hkind, rfl⟩, h⟩ := h
  split at h
  · simp only [returns_bind, collectDeclarators_eq] at h
    obtain ⟨parts, l₁, hparts, h⟩ := h
    refine ⟨kind, parts, l₁, ?_⟩
    split at h
    · rename_i hempty
      simp only [returns_bind, returns_pure] at h
      obtain ⟨rest, _, ⟨rfl, rfl⟩, rfl, rfl⟩ := h
      exact ⟨[], hkind, hparts, by simp [hempty, returns_pure], by simp [List.flatMap]⟩
    · rename_i hne
      simp only [returns_bind, returns_pure] at h
      obtain ⟨rest, _, hrest, rfl, rfl⟩ := h
      exact ⟨rest, hkind, hparts, by simpa [hne] using hrest, by simp [List.flatMap]⟩
  · exact absurd h not_returns_throw

/-- Whether the construct is an annotation element with a default value. -/
def Construct.hasDefault {α : Type} : Construct α → Bool
  | .annotationMember _ _ default _ => default.isSome
  | _ => false

theorem collectFieldLike_returns {n enclosing : Node} {e : MemberParts} {l m : Ledger}
    (h : (collectFieldLike n enclosing).Returns l e m) :
    ∃ name kind above l₁ code l₂ own,
      n.requiredName = .ok name.text ∧ n.fieldKind enclosing = .ok kind ∧
      (claimAdjacent n enclosing).Returns l above l₁ ∧ (collectRoots n).Returns l₁ code l₂ ∧
      (claimOwn n).Returns l₂ own m ∧
      e = ⟨[⟨name, kind, if n.construct.hasDefault then 1 else 0,
        above ++ code.comments ++ own⟩], [], code.types⟩ := by
  unfold collectFieldLike collectFieldLikeWith at h
  simp only [returns_bind, returns_require] at h
  obtain ⟨text, _, ⟨htext, rfl⟩, kind, _, ⟨hkind, rfl⟩, name, _, ⟨hname, rfl⟩, above, l₁, habove,
    counted, l₂, hcounted, h⟩ := h
  obtain ⟨statements, code⟩ := counted
  simp only [returns_pure] at h
  obtain ⟨own, _, hown, rfl, rfl⟩ := h
  have hcode : (collectRoots n).Returns l₁ code l₂ ∧
      statements = if n.construct.hasDefault then 1 else 0 := by
    split at hcounted
    · rename_i hn
      simp only [returns_bind, returns_pure, Prod.mk.injEq] at hcounted
      obtain ⟨_, _, hcode, ⟨rfl, rfl⟩, rfl⟩ := hcounted
      refine ⟨collectOptionalCode_returns ?_ hcode, ?_⟩
      · simp [Node.constantArguments, hn]
      · simp [Construct.hasDefault, hn]
    · rename_i hn
      simp only [returns_bind, returns_pure, Prod.mk.injEq] at hcounted
      obtain ⟨_, _, hcode, ⟨rfl, rfl⟩, rfl⟩ := hcounted
      refine ⟨collectArguments_returns ?_ hcode, ?_⟩
      · unfold Node.fieldKind at hkind
        unfold Node.requiredName at htext
        cases hc : n.construct with
        | annotationMember _ _ _ _ => exact absurd hc (hn _ _ _ _)
        | _ => simp_all [Node.code?, Construct.name?]
      · unfold Construct.hasDefault
        split
        · rename_i hd
          exact absurd hd (hn _ _ _ _)
        · rfl
  rw [← ElementName.text_of hname] at htext
  exact ⟨name, kind, above, l₁, code, l₂, own, htext, hkind, habove, hcode.1, hown,
    by rw [hcode.2]⟩

/-! ## Types -/

namespace MemberParts

/-- All that the members of a type add to it. -/
def gather (parts : List MemberParts) : MemberParts :=
  ⟨parts.flatMap (·.fields), parts.flatMap (·.methods), parts.flatMap (·.innerTypes)⟩

theorem foldl_append (parts : List MemberParts) :
    parts.foldl append empty = gather parts := by
  have step (a : MemberParts) (parts : List MemberParts) :
      parts.foldl append a = a.append (gather parts) := by
    induction parts generalizing a with
    | nil => simp [append, gather]
    | cons b parts ih => simp [ih, append, gather]
  rw [step]
  simp [append, empty]

end MemberParts

theorem Node.code?_of_typeKind {n : Node} {kind : TypeKind} (h : n.typeKind = .ok kind) :
    n.code? = none := by
  unfold typeKind at h
  unfold code?
  split at h <;> simp_all

theorem collectType_returns {n parent : Node} {t : TypeOf} {l m : Ledger}
    (h : (collectType n parent).Returns l t m) :
    ∃ name kind above l₁ code l₂ parts l₃ own,
      n.typeName = .ok name.text ∧ n.typeKind = .ok kind ∧
      (claimAdjacent n parent).Returns l above l₁ ∧ (collectRoots n).Returns l₁ code l₂ ∧
      (each n.typeMembers fun c _ => collectMember c n).Returns l₂ parts l₃ ∧
      (claimOwn n).Returns l₃ own m ∧
      t = .mk name kind (above ++ code.comments ++ own) (MemberParts.gather parts).fields
        (MemberParts.gather parts).methods
        (code.types ++ (MemberParts.gather parts).innerTypes) := by
  rw [collectType_eq] at h
  simp only [returns_bind, returns_require, returns_pure, Tally.foldl_append,
    MemberParts.foldl_append] at h
  obtain ⟨text, _, ⟨htext, rfl⟩, kind, _, ⟨hkind, rfl⟩, name, _, ⟨hname, rfl⟩, above, l₁, habove,
    code, l₂, hcode, parts, l₃, hparts, own, _, hown, rfl, rfl⟩ := h
  have hroots : (collectRoots n).Returns l₁ (Tally.gather code) l₂ := by
    rw [returns_collectRoots, Node.codeRoots, Node.code?_of_typeKind hkind]
    exact ⟨code, hcode, rfl⟩
  rw [← ElementName.text_of hname] at htext
  exact ⟨name, kind, above, l₁, _, l₂, parts, l₃, own, htext, hkind, habove, hroots, hparts, hown,
    rfl⟩

/-! ## Members -/

/-- What a construct is as a member of a type. -/
inductive MemberRole where
  | fields
  | method
  | field
  | type
  | foreign
  deriving DecidableEq, Repr

def Construct.memberRole {α : Type} : Construct α → MemberRole
  | .fieldDeclaration .. => .fields
  | .callable (.method _) .. | .callable .constructor .. | .initializerBlock .. => .method
  | .enumConstant _ _ none | .annotationMember .. => .field
  | .enumConstant _ _ (some _) | .typeDeclaration .. | .enumDeclaration .. => .type
  | _ => .foreign

/-- A member adds what it declares, and nothing else, to its type. -/
theorem collectMember_returns {n enclosing : Node} {parts : MemberParts} {l m : Ledger}
    (h : (collectMember n enclosing).Returns l parts m) :
    match n.construct.memberRole with
    | .fields => (collectFields n enclosing).Returns l parts m
    | .method => ∃ e, (collectMethod n enclosing).Returns l e m ∧ parts = ⟨[], [e], []⟩
    | .field => (collectFieldLike n enclosing).Returns l parts m
    | .type => ∃ t, (collectType n enclosing).Returns l t m ∧ parts = ⟨[], [], [t]⟩
    | .foreign => False := by
  have oneMethod (h : (do return ⟨[], [← collectMethod n enclosing], []⟩ :
      Attribution MemberParts).Returns l parts m) :
      ∃ e, (collectMethod n enclosing).Returns l e m ∧ parts = ⟨[], [e], []⟩ := by
    simp only [returns_bind, returns_pure] at h
    obtain ⟨e, _, he, rfl, rfl⟩ := h
    exact ⟨e, he, rfl⟩
  have oneType (h : (do return ⟨[], [], [← collectType n enclosing]⟩ :
      Attribution MemberParts).Returns l parts m) :
      ∃ t, (collectType n enclosing).Returns l t m ∧ parts = ⟨[], [], [t]⟩ := by
    simp only [returns_bind, returns_pure] at h
    obtain ⟨t, _, ht, rfl, rfl⟩ := h
    exact ⟨t, ht, rfl⟩
  unfold collectMember collectMemberWith at h
  unfold Construct.memberRole
  split at h
  · rename_i hn
    simp only [hn]
    exact h
  iterate 3
    · rename_i hn
      simp only [hn]
      exact oneMethod h
  iterate 2
    · rename_i hn
      simp only [hn]
      exact h
  iterate 3
    · rename_i hn
      simp only [hn]
      exact oneType h
  · exact absurd h not_returns_throw

/-! ## Units -/

theorem Node.construct_of_unitParts {n : Node} {parts : UnitParts} (h : n.unitParts = .ok parts) :
    n.construct = .compilationUnit parts.package parts.imports parts.types parts.module := by
  unfold unitParts at h
  split at h
  · rename_i hn
    cases h
    exact hn
  · cases h

theorem claimUnitComments_returns {n : Node} {imports : List Node} {cs : List Comment}
    {l m : Ledger} (h : (claimUnitComments n imports).Returns l cs m) :
    ∃ imported l₁ own l₂ rest,
      (each imports fun i _ => claimOwn i).Returns l imported l₁ ∧
      (claimOwn n).Returns l₁ own l₂ ∧ (claimSubtree n).Returns l₂ rest m ∧
      cs = imported.flatten ++ own ++ rest := by
  unfold claimUnitComments at h
  simp only [returns_bind, returns_pure] at h
  obtain ⟨imported, l₁, himported, own, l₂, hown, rest, _, hrest, rfl, rfl⟩ := h
  exact ⟨imported, l₁, own, l₂, rest, himported, hown, hrest, rfl⟩

theorem collectOrdinaryUnit_returns {n : Node} {name : String} {u : OrdinaryUnit (List Comment)}
    {l m : Ledger} (h : (collectOrdinaryUnit n name).Returns l u m) :
    ∃ package imports types element elements l₁ packageText forUnit forPackage l₂ rest,
      n.construct = .compilationUnit package imports types none ∧
      ElementName.of .compilationUnit name = .ok element ∧
      (each types fun t _ => collectType t n).Returns l elements l₁ ∧
      packageName package = .ok packageText ∧
      (claimPackageComments n package !types.isEmpty).Returns l₁ (forUnit, forPackage) l₂ ∧
      (claimUnitComments n imports).Returns l₂ rest m ∧
      u = ⟨packageText, ⟨element, forUnit ++ rest, elements⟩, forPackage⟩ := by
  unfold collectOrdinaryUnit at h
  simp only [returns_bind, returns_require] at h
  obtain ⟨parts, _, ⟨hparts, rfl⟩, h⟩ := h
  have hn := Node.construct_of_unitParts hparts
  split at h
  · exact absurd h not_returns_throw
  · rename_i hmodule
    simp only [returns_bind, returns_require, returns_pure] at h
    obtain ⟨element, _, ⟨helement, rfl⟩, elements, l₁, helements, packageText, _,
      ⟨hpackage, rfl⟩, ⟨forUnit, forPackage⟩, l₂, hheld, rest, _, hrest, rfl, rfl⟩ := h
    rw [Option.isSome_iff_ne_none, not_not] at hmodule
    rw [hmodule] at hn
    exact ⟨_, _, _, element, elements, l₁, packageText, forUnit, forPackage, l₂, rest, hn, helement,
      helements, hpackage, hheld, hrest, rfl⟩

theorem collectModule_returns {n parent : Node} {e : ModuleElement (List Comment)} {l m : Ledger}
    (h : (collectModule n parent).Returns l e m) :
    ∃ name isOpen directives above l₁ parts l₂ own,
      n.construct = .moduleDeclaration name isOpen directives ∧
      (claimAdjacent n parent).Returns l above l₁ ∧
      (each directives fun d _ => do
        let kind ← require d.directiveKind
        let comments ← claimOwn d
        return (kind, comments)).Returns l₁ parts l₂ ∧
      (claimOwn n).Returns l₂ own m ∧ e.comments = above ++ (parts.map (·.2)).flatten ++ own := by
  unfold collectModule at h
  simp only [returns_bind, returns_require, returns_pure] at h
  obtain ⟨⟨name, isOpen, directives⟩, _, ⟨hn, rfl⟩, _, _, ⟨_, rfl⟩, above, l₁, habove, parts, l₂,
    hparts, own, _, hown, rfl, rfl⟩ := h
  refine ⟨name, isOpen, directives, above, l₁, parts, l₂, own, ?_, habove, hparts, hown, rfl⟩
  unfold Node.moduleParts at hn
  split at hn
  · rename_i hc
    cases hn
    exact hc
  · cases hn

theorem collectModularUnit_returns {n : Node} {name : String}
    {u : ModularUnitElement (List Comment)} {l m : Ledger}
    (h : (collectModularUnit n name).Returns l u m) :
    ∃ package imports types declaration module l₁ element rest,
      n.construct = .compilationUnit package imports types (some declaration) ∧
      (collectModule declaration n).Returns l module l₁ ∧
      ElementName.of .modularUnit name = .ok element ∧
      (claimUnitComments n imports).Returns l₁ rest m ∧ u = ⟨element, rest, module⟩ := by
  unfold collectModularUnit at h
  simp only [returns_bind, returns_require] at h
  obtain ⟨parts, _, ⟨hparts, rfl⟩, h⟩ := h
  have hn := Node.construct_of_unitParts hparts
  split at h
  · exact absurd h not_returns_throw
  · rename_i declaration hdeclaration
    simp only [returns_bind, returns_require, returns_pure] at h
    obtain ⟨module, l₁, hmodule, element, _, ⟨helement, rfl⟩, rest, _, hrest, rfl, rfl⟩ := h
    rw [hdeclaration] at hn
    exact ⟨_, _, _, declaration, module, l₁, element, rest, hn, hmodule, helement, hrest, rfl⟩

theorem collectUnit_returns {n : Node} {name : String} {u : CollectedUnit (List Comment)}
    {l m : Ledger} (h : (collectUnit n name).Returns l u m) :
    (∃ v, (collectOrdinaryUnit n name).Returns l v m ∧ u = .ordinary v) ∨
      ∃ v, (collectModularUnit n name).Returns l v m ∧ u = .modular v := by
  unfold collectUnit at h
  simp only [returns_bind, returns_require] at h
  obtain ⟨parts, _, ⟨hparts, rfl⟩, h⟩ := h
  split at h <;> simp only [returns_bind, returns_pure] at h <;> obtain ⟨v, _, hv, rfl, rfl⟩ := h
  · exact .inr ⟨v, hv, rfl⟩
  · exact .inl ⟨v, hv, rfl⟩

end JavaCensus
