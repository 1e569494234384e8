import JavaCensus.Proofs.Capacities
import JavaCensus.Collect.Collector

/-!
# Collecting what has been read

Collecting a well-sorted unit meets nothing it cannot classify. It can fail only where an element
would have no name, and a source that names its types, variables, constants, annotation elements and
modules is collected to its end.
-/
namespace JavaCensus

namespace Attribution

variable {α β : Type} {allowed : Error → Prop}

/-- Wherever the step fails, its error is one of those allowed. -/
def FailsOnly (allowed : Error → Prop) (x : Attribution α) : Prop :=
  ∀ l e m, (x.run.run l : Except Error α × Ledger) = (.error e, m) → allowed e

theorem FailsOnly.mono {wider : Error → Prop} {x : Attribution α} (h : FailsOnly allowed x)
    (implies : ∀ e, allowed e → wider e) : FailsOnly wider x :=
  fun l e m hx => implies e (h l e m hx)

theorem failsOnly_pure (a : α) : FailsOnly allowed (pure a : Attribution α) := by
  intro l e m h
  cases (congrArg Prod.fst h : Except.ok a = Except.error e)

theorem failsOnly_bind {x : Attribution α} {f : α → Attribution β} (hx : FailsOnly allowed x)
    (hf : ∀ a, FailsOnly allowed (f a)) : FailsOnly allowed (x >>= f) := by
  intro l e m h
  rw [run_bind] at h
  cases run : (x.run.run l : Except Error α × Ledger) with
  | mk result k =>
    rw [run] at h
    cases result with
    | error d =>
      cases h
      exact hx l e m run
    | ok a => exact hf a k e m h

theorem failsOnly_require_ok {x : Except Error α} {f : α → Attribution β} {a : α}
    (hx : x = .ok a) (hf : FailsOnly allowed (f a)) : FailsOnly allowed (require x >>= f) := by
  subst hx
  exact hf

theorem failsOnly_claim (cs : List Comment) : FailsOnly allowed (claim cs) := by
  intro l e m h
  cases (congrArg Prod.fst h : Except.ok (l.fresh cs) = Except.error e)

theorem failsOnly_claimAdjacent (n parent : Node) : FailsOnly allowed (claimAdjacent n parent) := by
  intro l e m h
  cases (congrArg Prod.fst h : Except.ok (l.fresh (l.adjacentOrphans n parent)) = Except.error e)

theorem failsOnly_each {f : α → Attribution β} {xs : List α}
    (step : ∀ x ∈ xs, FailsOnly allowed (f x)) : FailsOnly allowed (each xs fun a _ => f a) := by
  induction xs with
  | nil => exact failsOnly_pure []
  | cons x xs ih =>
    refine failsOnly_bind (step x (List.mem_cons_self ..)) fun y => ?_
    refine failsOnly_bind (ih fun a ha => step a (List.mem_cons_of_mem _ ha)) fun ys => ?_
    exact failsOnly_pure _

end Attribution

/-! ## Names -/

/-- The name that the element of a construct takes from the source as it is. -/
def Construct.elementName? {α : Type} : Construct α → Option String
  | .typeDeclaration _ name _ _ | .enumDeclaration name _ _ _ | .variableDeclarator name _
  | .enumConstant name _ _ | .annotationMember name _ _ _ | .moduleDeclaration name _ _ => some name
  | _ => none

/-- The error says that an element has no name, and some node below does give it none. -/
def Node.LacksName (n : Node) (e : Error) : Prop :=
  (∃ element, e = .mishap (.unnamed element)) ∧
    ∃ m ∈ n.walk, m.construct.elementName? = some ""

theorem Node.LacksName.of_mem_walk {n m : Node} {e : Error} (hm : m ∈ n.walk)
    (h : m.LacksName e) : n.LacksName e := by
  obtain ⟨unnamed, k, hk, name⟩ := h
  exact ⟨unnamed, k, mem_walk_trans hm hk, name⟩

theorem ElementName.of_eq_error {element : Named} {text : String} {e : Error}
    (h : ElementName.of element text = .error e) :
    text = "" ∧ e = .mishap (.unnamed element) := by
  unfold ElementName.of at h
  split at h
  · cases h
    exact ⟨‹_›, rfl⟩
  · cases h

/-- An element is left without a name only where its node gives it none. -/
theorem Attribution.failsOnly_name {β : Type} {n : Node} {element : Named} {text : String}
    {f : ElementName → Attribution β} (given : text = "" → n.construct.elementName? = some "")
    (hf : ∀ name, FailsOnly n.LacksName (f name)) :
    FailsOnly n.LacksName (require (ElementName.of element text) >>= f) := by
  cases hname : ElementName.of element text with
  | ok name => exact failsOnly_require_ok rfl (hf name)
  | error e =>
    intro l d m h
    obtain ⟨empty, rfl⟩ := ElementName.of_eq_error hname
    cases congrArg Prod.fst h
    exact ⟨⟨element, rfl⟩, n, n.mem_walk_self, given empty⟩

theorem Construct.eq_fieldDeclaration {α : Type} {x : Construct α}
    (role : x.memberRole = .fields) :
    ∃ type declarators modifiers, x = .fieldDeclaration type declarators modifiers := by
  unfold memberRole at role
  split at role <;> cases role
  exact ⟨_, _, _, rfl⟩

namespace Node

variable {n : Node}

/-- Methods and initializers always have names. -/
theorem exists_methodName (enclosing : Node) (role : n.construct.memberRole = .method) :
    ∃ text kind, n.methodName = .ok text ∧ n.methodKind enclosing = .ok kind ∧ text ≠ "" := by
  unfold methodName methodKind
  cases hn : n.construct with
  | callable sort => cases sort <;> simp_all [Construct.memberRole, signature]
  | initializerBlock _ isStatic => cases isStatic <;> simp
  | enumConstant _ _ body => cases body <;> simp [hn, Construct.memberRole] at role
  | _ => simp [hn, Construct.memberRole] at role

/-- The name of a type is its own, if it is not anonymous. -/
theorem exists_typeName {kind : TypeKind} (classified : n.typeKind = .ok kind) :
    ∃ text, n.typeName = .ok text ∧ (text = "" → n.construct.elementName? = some "") := by
  unfold typeKind at classified
  unfold typeName requiredName
  split at classified <;> rename_i hn <;>
    simp_all [Construct.name?, Construct.elementName?]

theorem exists_fieldName (enclosing : Node) (role : n.construct.memberRole = .field) :
    ∃ text kind, n.requiredName = .ok text ∧ n.fieldKind enclosing = .ok kind ∧
      (text = "" → n.construct.elementName? = some "") := by
  unfold requiredName fieldKind
  cases hn : n.construct with
  | enumConstant _ _ body =>
    cases body <;> simp_all [Construct.memberRole, Construct.name?, Construct.elementName?]
  | annotationMember => simp [Construct.name?, Construct.elementName?]
  | callable sort => cases sort <;> simp [hn, Construct.memberRole] at role
  | _ => simp [hn, Construct.memberRole] at role

end Node

/-! ## Parts of well-sorted nodes -/

namespace Node

variable {n c : Node} {capacity : Capacity}

theorem Serves.constantArguments (h : n.Serves capacity) (hc : c ∈ n.constantArguments) :
    c.Serves .code := by
  unfold Node.constantArguments at hc
  split at hc
  · rename_i hn
    refine h.part (p := (.code, c)) ?_
    simp [hn, Construct.stations, hc]
  · cases hc

theorem Serves.creationArguments (h : n.Serves capacity) (hc : c ∈ n.creationArguments) :
    c.Serves .code := by
  unfold Node.creationArguments at hc
  split at hc
  · rename_i hn
    refine h.part (p := (.code, c)) ?_
    simp [hn, Construct.stations, hc]
  · cases hc

theorem Serves.fieldVariables (h : n.Serves capacity) (hc : c ∈ n.fieldVariables) :
    c.Serves .declarator := by
  unfold Node.fieldVariables at hc
  split at hc
  · rename_i hn
    refine h.part (p := (.declarator, c)) ?_
    simp [hn, Construct.stations, hc]
  · cases hc

theorem Serves.typeMembers (h : n.Serves capacity) (hc : c ∈ n.typeMembers) :
    c.Serves .member := by
  unfold Node.typeMembers at hc
  split at hc <;> rename_i hn <;> first | cases hc; done | skip
  all_goals
    refine h.part (p := (.member, c)) ?_
    simp_all [Construct.stations]

theorem Serves.code? (h : n.Serves capacity) (hc : n.code? = some c) : c.Serves .code := by
  unfold Node.code? at hc
  split at hc <;> rename_i hn <;> first | cases hc; done | skip
  all_goals
    refine h.part (p := (.code, c)) ?_
    simp_all [Construct.stations, Construct.children]

end Node

/-! ## Code -/

/-- A construct that is walked through asks its parts to be walked. -/
theorem Construct.isWalked_of_mem_stations {α : Type} {x : Construct α} {p : Capacity × α}
    (role : x.codeRole = .counted ∨ x.codeRole = .passedThrough) (hp : p ∈ x.stations) :
    p.1.isWalked := by
  have walked : ∀ q ∈ x.stations, q.1.isWalked := by
    cases x with
    | objectCreation _ _ body =>
      cases body with
      | none =>
        simp only [stations, Option.getD_none, List.map_nil, List.append_nil, List.forall_mem_map]
        exact fun _ _ => rfl
      | some _ => simp [codeRole] at role
    | fieldDeclaration | typeDeclaration | enumDeclaration | enumConstant | moduleDeclaration
    | compilationUnit => simp [codeRole] at role
    | _ =>
      simp only [stations, children, List.forall_mem_append, List.forall_mem_map]
      simp [Capacity.isWalked]
  exact walked p hp

namespace Node

variable {n c : Node}

/-- Walking through a node of code meets nodes of code. -/
theorem Serves.code_of_mem_children (h : n.Serves .code)
    (role : n.construct.codeRole = .counted ∨ n.construct.codeRole = .passedThrough)
    (hc : c ∈ n.children) : c.Serves .code := by
  rw [children, ← Construct.map_snd_stations] at hc
  obtain ⟨p, hp, rfl⟩ := List.mem_map.1 hc
  have part := h.part hp
  exact part.change (Construct.serves_code_of_isWalked
    (Construct.isWalked_of_mem_stations role hp) part.own)

theorem exists_countInitialized {ns : List Node}
    (h : ∀ m ∈ ns, m.construct.initializer?.isSome) : ∃ k, countInitialized ns = .ok k := by
  induction ns with
  | nil => exact ⟨0, rfl⟩
  | cons m ns ih =>
    obtain ⟨k, hk⟩ := ih fun a ha => h a (List.mem_cons_of_mem _ ha)
    obtain ⟨initializer, hm⟩ := Option.isSome_iff_exists.1 (h m (List.mem_cons_self ..))
    exact ⟨_, by rw [countInitialized, hm, hk]; rfl⟩

theorem Serves.isSome_initializer? {capacity : Capacity} (h : n.Serves capacity)
    (either : capacity = .declarator ∨ capacity = .resource) :
    n.construct.initializer?.isSome := by
  have own := h.own
  rcases either with rfl | rfl <;> simp only [Construct.serves] at own <;> split at own <;>
    rename_i hn <;> first | cases own; done | simp [hn, Construct.initializer?]

theorem Serves.construct_of_declarator (h : n.Serves .declarator) :
    ∃ name initializer, n.construct = .variableDeclarator name initializer := by
  have own := h.own
  simp only [Construct.serves] at own
  split at own
  · exact ⟨_, _, ‹_›⟩
  · cases own

/-- The statements of a node that counts are known. -/
theorem Serves.exists_statementCount (h : n.Serves .code)
    (role : n.construct.codeRole = .counted) : ∃ k, n.statementCount = .ok k := by
  have specified := (Construct.serves_code_iff.1 h.own).2
  unfold statementCount
  cases hn : n.construct with
  | localDeclaration _ declarators =>
    refine exists_countInitialized fun m hm => ?_
    have station : (.declarator, m) ∈ n.construct.stations := by simp [hn, Construct.stations, hm]
    exact (h.part station).isSome_initializer? (.inl rfl)
  | tryStatement resources =>
    obtain ⟨k, hk⟩ : ∃ k, countInitialized resources = .ok k := by
      refine exists_countInitialized fun m hm => ?_
      have station : (.resource, m) ∈ n.construct.stations := by simp [hn, Construct.stations, hm]
      exact (h.part station).isSome_initializer? (.inr rfl)
    exact ⟨1 + k, by simp only [hk]; rfl⟩
  | constructorCall _ _ isImplicit => cases isImplicit <;> exact ⟨_, rfl⟩
  | bare => simp [hn, Construct.isSpecified] at specified
  | objectCreation _ _ body => cases body <;> simp [hn, Construct.codeRole] at role
  | _ => first | exact ⟨_, rfl⟩ | simp [hn, Construct.codeRole] at role

/-- What stands in code as a type, and what is a member type, has a kind. -/
theorem exists_typeKind (specified : n.construct.isSpecified)
    (role : n.construct.codeRole = .declaredType ∨ n.construct.codeRole = .anonymousType ∨
      n.construct.memberRole = .type) : ∃ kind, n.typeKind = .ok kind := by
  unfold typeKind
  cases hn : n.construct with
  | typeDeclaration sort => cases sort <;> simp_all [Construct.isSpecified]
  | enumDeclaration => exact ⟨_, rfl⟩
  | enumConstant _ _ body | objectCreation _ _ body =>
    cases body <;> simp_all [Construct.codeRole, Construct.memberRole]
  | callable sort => cases sort <;> simp_all [Construct.codeRole, Construct.memberRole]
  | bare => simp [hn, Construct.isSpecified] at specified
  | _ => simp [hn, Construct.codeRole, Construct.memberRole] at role

end Node

/-- A type that is met can be collected: all of it is well sorted, and its kind is known. -/
def Node.IsType (n : Node) : Prop :=
  (∃ capacity, n.Serves capacity) ∧ ∃ kind, n.typeKind = .ok kind

/-- An event that cannot fail: it is no failure, and a type that is met can be collected. -/
def Visit.IsSettled (n : Node) : Visit → Prop
  | .count _ | .claim _ => True
  | .type t _ => t ∈ n.walk ∧ t.IsType
  | .fail _ => False

theorem Visit.IsSettled.of_mem_children {n c : Node} {v : Visit} (hc : c ∈ n.children)
    (h : v.IsSettled c) : v.IsSettled n := by
  cases v with
  | type t p => exact ⟨Node.mem_walk_of_mem_children hc h.1, h.2⟩
  | fail e => exact h
  | _ => trivial

theorem isSettled_of_mem_visits {n parent : Node} (h : n.Serves .code) {v : Visit}
    (hv : v ∈ visits n parent) : v.IsSettled n := by
  induction n using Node.induction generalizing parent v with
  | step n ih =>
    obtain ⟨known, specified⟩ := Construct.serves_code_iff.1 h.own
    have deeper {cs : List Node} (hcs : ∀ c ∈ cs, c ∈ n.children ∧ c.Serves .code)
        (hv : v ∈ cs.flatMap (visits · n)) : v.IsSettled n := by
      obtain ⟨c, hc, hv⟩ := List.mem_flatMap.1 hv
      obtain ⟨below, serves⟩ := hcs c hc
      exact (ih c below serves hv).of_mem_children below
    have isType (role : n.construct.codeRole = .declaredType ∨
        n.construct.codeRole = .anonymousType) : n.IsType :=
      ⟨⟨_, h⟩, Node.exists_typeKind specified (by tauto)⟩
    rw [visits_eq] at hv
    cases role : n.construct.codeRole with
    | declaredType =>
      simp only [role, List.mem_singleton] at hv
      subst hv
      exact ⟨n.mem_walk_self, isType (.inl role)⟩
    | anonymousType =>
      simp only [role, List.mem_append, List.mem_singleton] at hv
      rcases hv with hv | rfl
      · exact deeper (fun c hc =>
          ⟨Node.mem_children_of_mem_creationArguments hc, h.creationArguments hc⟩) hv
      · exact ⟨n.mem_walk_self, isType (.inr role)⟩
    | counted =>
      simp only [role, List.mem_append, List.mem_singleton] at hv
      rcases hv with (hv | hv) | rfl
      · obtain ⟨k, hk⟩ := h.exists_statementCount role
        rw [Node.ownCount, hk, List.mem_singleton] at hv
        subst hv
        trivial
      · exact deeper (fun c hc => ⟨hc, h.code_of_mem_children (.inl role) hc⟩) hv
      · trivial
    | passedThrough =>
      simp only [role, List.mem_append, List.mem_singleton] at hv
      rcases hv with hv | rfl
      · exact deeper (fun c hc => ⟨hc, h.code_of_mem_children (.inr role) hc⟩) hv
      · trivial
    | foreign => exact absurd role known

open Attribution

/-- Collecting the type fails at most for want of a name. -/
def Node.IsCollectable (n : Node) : Prop :=
  n.IsType → ∀ parent, FailsOnly n.LacksName (collectType n parent)

/-- All types at or below the node are collected so. -/
def Node.CollectsWithin (n : Node) : Prop :=
  ∀ t ∈ n.walk, t.IsCollectable

theorem collectInside_failsOnly {n : Node} (types : n.CollectsWithin) (h : n.Serves .code)
    (parent : Node) : FailsOnly n.LacksName (collectInside n parent) := by
  rw [collectInside_eq]
  refine failsOnly_bind (failsOnly_each fun v hv => ?_) fun parts => failsOnly_pure _
  have settled := isSettled_of_mem_visits h hv
  cases v with
  | count k => exact failsOnly_pure _
  | claim m => exact failsOnly_bind (failsOnly_claim _) fun _ => failsOnly_pure _
  | type t p =>
    have inner := types t settled.1 settled.2 p
    exact failsOnly_bind (inner.mono fun e => .of_mem_walk settled.1) fun _ => failsOnly_pure _
  | fail e => exact settled.elim

theorem Node.CollectsWithin.of_mem_children {n c : Node} (h : n.CollectsWithin)
    (hc : c ∈ n.children) : c.CollectsWithin :=
  fun t ht => h t (mem_walk_of_mem_children hc ht)

theorem Node.LacksName.of_mem_children {n c : Node} {e : Error} (hc : c ∈ n.children)
    (h : c.LacksName e) : n.LacksName e :=
  .of_mem_walk (mem_walk_of_mem_children hc c.mem_walk_self) h

section Parts

variable {n enclosing : Node} {capacity : Capacity}
  (types : ∀ c ∈ n.children, c.CollectsWithin) (h : n.Serves capacity)
include types h

theorem collectOptionalCode_failsOnly :
    FailsOnly n.LacksName (collectOptionalCode n fun t p _ => collectType t p) := by
  unfold collectOptionalCode
  split
  · exact failsOnly_pure _
  · rename_i c hc
    have below := Node.mem_children_of_code?_eq_some hc
    exact (collectInside_failsOnly (types c below) (h.code? hc) n).mono
      fun e => .of_mem_children below

theorem arguments_failsOnly :
    FailsOnly n.LacksName (each n.constantArguments fun a _ =>
      collectCode a n fun t p _ => collectType t p) := by
  refine failsOnly_each fun a ha => ?_
  have below := Node.mem_children_of_mem_constantArguments ha
  exact (collectInside_failsOnly (types a below) (h.constantArguments ha) n).mono
    fun e => .of_mem_children below

theorem collectMethod_failsOnly (role : n.construct.memberRole = .method) :
    FailsOnly n.LacksName (collectMethod n enclosing) := by
  obtain ⟨text, kind, htext, hkind, ne⟩ := Node.exists_methodName enclosing role
  unfold collectMethod collectMethodWith
  refine failsOnly_require_ok htext (failsOnly_require_ok hkind ?_)
  refine failsOnly_name (fun empty => absurd empty ne) fun name => ?_
  refine failsOnly_bind (failsOnly_claimAdjacent n enclosing) fun above => ?_
  refine failsOnly_bind (collectOptionalCode_failsOnly types h) fun code => ?_
  refine failsOnly_bind (failsOnly_claim _) fun own => ?_
  exact failsOnly_bind (failsOnly_claim _) fun rest => failsOnly_pure _

omit h in
theorem collectVariable_failsOnly {declaration : Node} {kind : FieldKind} {k : Nat}
    (h : n.Serves .declarator) :
    FailsOnly n.LacksName (collectVariable declaration enclosing kind (n, k)) := by
  obtain ⟨text, initializer, hn⟩ := h.construct_of_declarator
  rw [collectVariable_eq]
  refine failsOnly_require_ok (a := text) (by simp [Node.requiredName, hn, Construct.name?]) ?_
  refine failsOnly_name (fun empty => by simp [hn, Construct.elementName?, empty]) fun name => ?_
  refine failsOnly_bind ?_ fun shared => ?_
  · unfold claimShared
    split
    · refine failsOnly_bind (failsOnly_claimAdjacent _ _) fun above => ?_
      exact failsOnly_bind (failsOnly_claim _) fun attached => failsOnly_pure _
    · exact failsOnly_pure _
  refine failsOnly_bind (failsOnly_claimAdjacent _ _) fun above => ?_
  simp only [hn, Construct.initializer?, Option.elim_some]
  refine failsOnly_bind (collectOptionalCode_failsOnly types h) fun code => ?_
  exact failsOnly_bind (failsOnly_claim _) fun own => failsOnly_pure _

theorem collectFields_failsOnly (role : n.construct.memberRole = .fields) :
    FailsOnly n.LacksName (collectFields n enclosing) := by
  obtain ⟨type, declarators, modifiers, hn⟩ := Construct.eq_fieldDeclaration role
  unfold collectFields collectFieldsWith
  refine failsOnly_require_ok (by rw [Node.fieldKind, hn]) ?_
  simp only [hn, collectDeclarators_eq]
  refine failsOnly_bind (failsOnly_each fun v hv => ?_) fun parts => ?_
  · have hv := List.fst_mem_of_mem_zipIdx hv
    have below := Node.mem_children_of_mem_fieldVariables hv
    refine (collectVariable_failsOnly (fun c hc => ?_) (h.fieldVariables hv)).mono
      fun e => .of_mem_children below
    exact (types v.1 below).of_mem_children hc
  · split
    · exact failsOnly_pure _
    · exact failsOnly_bind (failsOnly_claim _) fun rest => failsOnly_pure _

theorem collectFieldLike_failsOnly (role : n.construct.memberRole = .field) :
    FailsOnly n.LacksName (collectFieldLike n enclosing) := by
  obtain ⟨text, kind, htext, hkind, given⟩ := Node.exists_fieldName enclosing role
  unfold collectFieldLike collectFieldLikeWith
  refine failsOnly_require_ok htext (failsOnly_require_ok hkind ?_)
  refine failsOnly_name given fun name => ?_
  refine failsOnly_bind (failsOnly_claimAdjacent n enclosing) fun above => ?_
  refine failsOnly_bind ?_ fun counted => ?_
  · split
    · exact failsOnly_bind (collectOptionalCode_failsOnly types h) fun code => failsOnly_pure _
    · refine failsOnly_bind ?_ fun code => failsOnly_pure _
      exact failsOnly_bind (arguments_failsOnly types h) fun parts => failsOnly_pure _
  · exact failsOnly_bind (failsOnly_claim _) fun own => failsOnly_pure _

end Parts

theorem collectMember_eq (n enclosing : Node) : collectMember n enclosing =
    match n.construct.memberRole with
    | .fields => collectFields n enclosing
    | .method => return ⟨[], [← collectMethod n enclosing], []⟩
    | .field => collectFieldLike n enclosing
    | .type => return ⟨[], [], [← collectType n enclosing]⟩
    | .foreign => throw (.unclassified n.label .typeMember) := by
  unfold collectMember collectMemberWith
  cases n.construct with
  | callable sort => cases sort <;> rfl
  | enumConstant _ _ body => cases body <;> rfl
  | _ => rfl

theorem collectMember_failsOnly {n enclosing : Node} (types : n.CollectsWithin)
    (h : n.Serves .member) : FailsOnly n.LacksName (collectMember n enclosing) := by
  obtain ⟨known, specified⟩ := Construct.serves_member_iff.1 h.own
  have below : ∀ c ∈ n.children, c.CollectsWithin := fun c hc => types.of_mem_children hc
  rw [collectMember_eq]
  cases role : n.construct.memberRole with
  | fields => exact collectFields_failsOnly below h role
  | method =>
    exact failsOnly_bind (collectMethod_failsOnly below h role) fun _ => failsOnly_pure _
  | field => exact collectFieldLike_failsOnly below h role
  | type =>
    have isType : n.IsType := ⟨⟨_, h⟩, Node.exists_typeKind specified (.inr (.inr role))⟩
    exact failsOnly_bind (types n n.mem_walk_self isType enclosing) fun _ => failsOnly_pure _
  | foreign => exact absurd role known

theorem isCollectable_of_children {n : Node} (types : ∀ c ∈ n.children, c.CollectsWithin) :
    n.IsCollectable := by
  rintro ⟨⟨capacity, h⟩, kind, hkind⟩ parent
  obtain ⟨text, htext, given⟩ := Node.exists_typeName hkind
  rw [collectType_eq]
  refine failsOnly_require_ok htext (failsOnly_require_ok hkind ?_)
  refine failsOnly_name given fun name => ?_
  refine failsOnly_bind (failsOnly_claimAdjacent n parent) fun above => ?_
  refine failsOnly_bind (arguments_failsOnly types h) fun code => ?_
  refine failsOnly_bind (failsOnly_each fun m hm => ?_) fun members => ?_
  · have below := Node.mem_children_of_mem_typeMembers hm
    exact (collectMember_failsOnly (types m below) (h.typeMembers hm)).mono
      fun e => .of_mem_children below
  · exact failsOnly_bind (failsOnly_claim _) fun own => failsOnly_pure _

/-- Every type that is well sorted is collected, if it and all within it have names. -/
theorem collectsWithin (n : Node) : n.CollectsWithin := by
  induction n using Node.induction with
  | step n ih =>
    intro t ht
    rw [Node.walk_eq, List.mem_cons, List.mem_flatMap] at ht
    rcases ht with rfl | ⟨c, hc, ht⟩
    · exact isCollectable_of_children ih
    · exact ih c hc t ht

/-! ## Units -/

theorem Node.Serves.construct_of_unit {n : Node} (h : n.Serves .unit) :
    ∃ package imports types module,
      n.construct = .compilationUnit package imports types module := by
  have own := h.own
  simp only [Construct.serves] at own
  split at own
  · exact ⟨_, _, _, _, ‹_›⟩
  · cases own

theorem Node.Serves.construct_of_module {n : Node} (h : n.Serves .module) :
    ∃ name isOpen directives, n.construct = .moduleDeclaration name isOpen directives := by
  have own := h.own
  simp only [Construct.serves] at own
  split at own
  · exact ⟨_, _, _, ‹_›⟩
  · cases own

theorem Node.Serves.exists_directiveKind {n : Node} (h : n.Serves .directive) :
    ∃ kind, n.directiveKind = .ok kind := by
  have own := h.own
  simp only [Construct.serves] at own
  split at own
  · rename_i hn
    exact ⟨_, by rw [directiveKind, hn]⟩
  · cases own

theorem Node.Serves.exists_requiredName {n : Node} (h : n.Serves .package) :
    ∃ text, n.requiredName = .ok text := by
  have own := h.own
  simp only [Construct.serves] at own
  split at own
  · rename_i hn
    exact ⟨_, by rw [requiredName, hn]; rfl⟩
  · cases own

theorem claimUnitComments_failsOnly {allowed : Error → Prop} (n : Node) (imports : List Node) :
    FailsOnly allowed (claimUnitComments n imports) := by
  refine failsOnly_bind (failsOnly_each fun i _ => failsOnly_claim _) fun imported => ?_
  refine failsOnly_bind (failsOnly_claim _) fun own => ?_
  exact failsOnly_bind (failsOnly_claim _) fun rest => failsOnly_pure _

theorem collectModule_failsOnly {n : Node} (h : n.Serves .module) (parent : Node) :
    FailsOnly n.LacksName (collectModule n parent) := by
  obtain ⟨text, isOpen, directives, hn⟩ := h.construct_of_module
  unfold collectModule
  refine failsOnly_require_ok (a := (text, isOpen, directives)) (by rw [Node.moduleParts, hn]) ?_
  refine failsOnly_name (fun empty => by simp [hn, Construct.elementName?, empty]) fun name => ?_
  refine failsOnly_bind (failsOnly_claimAdjacent n parent) fun above => ?_
  refine failsOnly_bind (failsOnly_each fun d hd => ?_) fun parts => ?_
  · have station : (.directive, d) ∈ n.construct.stations := by simp [hn, Construct.stations, hd]
    obtain ⟨kind, hkind⟩ := (h.part station).exists_directiveKind
    refine failsOnly_require_ok hkind ?_
    exact failsOnly_bind (failsOnly_claim _) fun comments => failsOnly_pure _
  · exact failsOnly_bind (failsOnly_claim _) fun own => failsOnly_pure _

theorem claimPackageComments_failsOnly {allowed : Error → Prop} (n : Node) (package : Option Node)
    (hasTypes : Bool) : FailsOnly allowed (claimPackageComments n package hasTypes) := by
  unfold claimPackageComments
  split
  · exact failsOnly_pure _
  · split
    · exact failsOnly_bind (failsOnly_claim _) fun own => failsOnly_pure _
    · refine failsOnly_bind (failsOnly_claimAdjacent _ n) fun above => ?_
      exact failsOnly_bind (failsOnly_claim _) fun own => failsOnly_pure _

theorem ElementName.exists_of {text : String} (element : Named) (named : text ≠ "") :
    ∃ name, ElementName.of element text = .ok name :=
  ⟨⟨text, named⟩, by rw [ElementName.of, dif_neg named]⟩

theorem collectModularUnit_failsOnly {n m : Node} {name : String} {package : Option Node}
    {imports types : List Node} (h : n.Serves .unit)
    (hn : n.construct = .compilationUnit package imports types (some m)) (named : name ≠ "") :
    FailsOnly n.LacksName (collectModularUnit n name) := by
  have hparts : n.unitParts = .ok ⟨package, imports, types, some m⟩ := by
    rw [Node.unitParts, hn]
  have station : (.module, m) ∈ n.construct.stations := by simp [hn, Construct.stations]
  have below : m ∈ n.children := by simp [Node.children, hn, Construct.children]
  obtain ⟨element, helement⟩ := ElementName.exists_of .modularUnit named
  unfold collectModularUnit
  refine failsOnly_require_ok hparts ?_
  refine failsOnly_bind ((collectModule_failsOnly (h.part station) n).mono
    fun e => .of_mem_children below) fun module => ?_
  refine failsOnly_require_ok helement ?_
  exact failsOnly_bind (claimUnitComments_failsOnly n _) fun rest => failsOnly_pure _

theorem collectOrdinaryUnit_failsOnly {n : Node} {name : String} {package : Option Node}
    {imports types : List Node} (h : n.Serves .unit)
    (hn : n.construct = .compilationUnit package imports types none) (named : name ≠ "") :
    FailsOnly n.LacksName (collectOrdinaryUnit n name) := by
  have hparts : n.unitParts = .ok ⟨package, imports, types, none⟩ := by
    rw [Node.unitParts, hn]
  obtain ⟨element, helement⟩ := ElementName.exists_of .compilationUnit named
  unfold collectOrdinaryUnit
  refine failsOnly_require_ok hparts (failsOnly_require_ok helement ?_)
  refine failsOnly_bind (failsOnly_each fun t ht => ?_) fun elements => ?_
  · have station : (.type, t) ∈ n.construct.stations := by simp [hn, Construct.stations, ht]
    have below : t ∈ n.children := by simp [Node.children, hn, Construct.children, ht]
    obtain ⟨role, specified⟩ := Construct.serves_type_iff.1 (h.part station).own
    have isType : t.IsType :=
      ⟨⟨_, h.part station⟩, Node.exists_typeKind specified (.inl role)⟩
    exact (collectsWithin t t t.mem_walk_self isType n).mono fun e => .of_mem_children below
  obtain ⟨text, htext⟩ : ∃ text, packageName package = .ok text := by
    cases package with
    | none => exact ⟨"", rfl⟩
    | some p =>
      have station : (.package, p) ∈ n.construct.stations := by simp [hn, Construct.stations]
      exact (h.part station).exists_requiredName
  refine failsOnly_require_ok htext ?_
  refine failsOnly_bind (claimPackageComments_failsOnly n package _) fun held => ?_
  exact failsOnly_bind (claimUnitComments_failsOnly n _) fun rest => failsOnly_pure _

/-- Collecting a well-sorted unit fails at most for want of a name. -/
theorem collectUnit_failsOnly {n : Node} {name : String} (h : n.Serves .unit)
    (named : name ≠ "") : FailsOnly n.LacksName (JavaCensus.collectUnit n name) := by
  obtain ⟨package, imports, types, module, hn⟩ := h.construct_of_unit
  have hparts : n.unitParts = .ok ⟨package, imports, types, module⟩ := by
    rw [Node.unitParts, hn]
  unfold JavaCensus.collectUnit
  refine failsOnly_require_ok hparts ?_
  cases module with
  | some m =>
    exact failsOnly_bind (collectModularUnit_failsOnly h hn named) fun _ => failsOnly_pure _
  | none =>
    exact failsOnly_bind (collectOrdinaryUnit_failsOnly h hn named) fun _ => failsOnly_pure _

/-- Whatever is read can be classified, and it is collected if its elements have names. -/
theorem Collector.collectUnit_readUnit {unitName name : String} {level : LanguageLevel}
    {preview : Bool} {source : SourceText} {parse : Parse} {u : ReadUnit} (c : Collector)
    (h : readUnit unitName level preview source parse = .ok u) (named : name ≠ "") :
    (∀ label context, (c.collectUnit name u.unit).result ≠ .error (.unclassified label context)) ∧
      ((∀ n ∈ u.unit.walk, n.construct.elementName? ≠ some "") →
        (c.collectUnit name u.unit).result = .ok ()) := by
  have fails := collectUnit_failsOnly (serves_readUnit h) named
  unfold collectUnit
  rw [if_neg named]
  cases run : (JavaCensus.collectUnit u.unit name).run.run .empty with
  | mk result ledger =>
    cases result with
    | ok collected => exact ⟨fun _ _ => by simp, fun _ => rfl⟩
    | error e =>
      obtain ⟨⟨element, rfl⟩, n, hn, empty⟩ := fails _ _ _ run
      exact ⟨fun _ _ => by simp, fun names => absurd empty (names n hn)⟩

/-! ## A class with an initializer -/

section InitializedClass

/-- A class with an initializer, and a comment in front of the one statement of it. -/
def initializedSource : SourceText :=
  .ofString "class A{{/*b*/;}}"

def emptyStatementTree : ParseTree :=
  ⟨";", false, false, 14, 15, none, []⟩

def initializerTree : ParseTree :=
  ⟨"block", true, false, 8, 16, none,
    [⟨"\x7b", false, false, 8, 9, none, []⟩, ⟨"block_comment", true, false, 9, 14, none, []⟩,
      emptyStatementTree, ⟨"\x7d", false, false, 15, 16, none, []⟩]⟩

def initializedBody : ParseTree :=
  ⟨"class_body", true, false, 7, 17, some "body",
    [⟨"\x7b", false, false, 7, 8, none, []⟩, initializerTree,
      ⟨"\x7d", false, false, 16, 17, none, []⟩]⟩

def initializedTree : ParseTree :=
  ⟨"class_declaration", true, false, 0, 17, none,
    [⟨"class", false, false, 0, 5, none, []⟩, ⟨"identifier", true, false, 6, 7, some "name", []⟩,
      initializedBody]⟩

def initializedParse : Parse :=
  ⟨⟨"program", true, false, 0, 17, none, [initializedTree]⟩, false⟩

def initializedUnit : Node :=
  let statement : Node := .bare (.ofLines 1 15 1 15) .emptyStatement
  let block : Node := .bare (.ofLines 1 9 1 16) (.block [statement])
  let initializer : Node := .bare (.ofLines 1 9 1 16) (.initializerBlock block false)
  .bare (.ofLines 1 1 1 17) (.compilationUnit none []
    [.bare (.ofLines 1 1 1 17) (.typeDeclaration .class "A" [] [initializer])] none)

theorem unitOf_initializedParse :
    (Reading.mk "A" initializedSource).unitOf .latest false initializedParse =
      .ok initializedUnit := by
  let r : Reading := ⟨"A", initializedSource⟩
  have walked : (initializedParse.root.descendants.filter fun m => !m.tree.isComment) =
      initializedParse.root.descendants.filter fun m => !m.tree.isComment := rfl
  conv_rhs at walked => cbv
  have features : r.checkFeatures .latest false initializedParse.root = .ok () := by
    rw [Reading.checkFeatures, walked]
    rfl
  have statement : r.statement emptyStatementTree =
      .ok (.bare (.ofLines 1 15 1 15) .emptyStatement) := by
    rw [Reading.statement]
    rfl
  have block : r.block initializerTree = (do
      return .bare (.ofLines 1 9 1 16) (.block (← [emptyStatementTree].mapM r.statement))) := by
    rw [Reading.block, Reading.statementList]
    rfl
  have member : r.member [] initializerTree = (do
      return .bare (.ofLines 1 9 1 16) (.initializerBlock (← r.block initializerTree) false)) := by
    rw [Reading.member]
    rfl
  have members : r.members [] initializedBody = [initializerTree].mapM (r.member []) := by
    rw [Reading.members]
    rfl
  have type : r.typeDeclaration initializedTree = (do
      return .bare (.ofLines 1 1 1 17)
        (.typeDeclaration .class "A" [] (← r.members [] initializedBody))) := by
    rw [Reading.typeDeclaration, Reading.bodyMembers]
    rfl
  have top : r.topLevel initializedTree = .type <$> r.typeDeclaration initializedTree := rfl
  have unit : r.unitOf .latest false initializedParse =
      ([initializedTree].mapM r.topLevel >>= r.assemble initializedParse.root) := by
    rw [Reading.unitOf, features]
    rfl
  rw [List.mapM_cons, statement] at block
  rw [block] at member
  rw [List.mapM_cons, member] at members
  rw [members] at type
  rw [type] at top
  rw [List.mapM_cons, top] at unit
  exact unit

def initializerComment : Comment :=
  ⟨0, .block, "b", .ofLines 1 10 1 14⟩

theorem readUnit_initializedParse :
    readUnit "A" .latest false initializedSource initializedParse =
      .ok ⟨initializedUnit.place [initializerComment], [initializerComment]⟩ := by
  let r : Reading := ⟨"A", initializedSource⟩
  have comments : r.comments initializedParse.root = [initializerComment] := by cbv
  refine readUnit_eq_ok.2 ⟨_, unitOf_initializedParse, ?_⟩
  rw [comments]
  rfl

theorem Collector.collectUnit_initializedParse :
    ∃ u, readUnit "A" .latest false initializedSource initializedParse = .ok u ∧
      (∀ n ∈ u.unit.walk, n.construct.elementName? ≠ some "") ∧
      (∀ label context,
        (empty.collectUnit "A" u.unit).result ≠ .error (.unclassified label context)) ∧
      (empty.collectUnit "A" u.unit).result = .ok () := by
  have names : (initializedUnit.place [initializerComment]).walk.all
      (fun n => n.construct.elementName? != some "") = true := by cbv
  simp only [List.all_eq_true, bne_iff_ne] at names
  obtain ⟨classified, collected⟩ :=
    collectUnit_readUnit empty readUnit_initializedParse (by decide : "A" ≠ "")
  exact ⟨_, readUnit_initializedParse, names, classified, collected names⟩

end InitializedClass

end JavaCensus
