import JavaCensus.Proofs.Collecting
import JavaCensus.Proofs.Stripped

/-!
# Collecting looks at comments through claims only

Collecting a tree and collecting the tree recast go the same way, as long as their claims do: the
comments that are claimed may differ, but neither they nor the ledger decide whether a step of
collecting fails, nor what elements it gives. So a tree fails, or is collected, as it is without
comments.
-/
namespace JavaCensus

namespace Attribution

variable {α β γ δ : Type} {R : Ledger → Ledger → Prop}

/-- From ledgers that correspond, two steps fail with the same error or give values that look the
same, and they leave ledgers that correspond. -/
def AgreesFrom (R : Ledger → Ledger → Prop) (look : α → γ) (x y : Attribution α) : Prop :=
  ∀ l m, R l m →
    (x.run.run l : Except Error α × Ledger).1.map look =
      (y.run.run m : Except Error α × Ledger).1.map look ∧
    R (x.run.run l : Except Error α × Ledger).2 (y.run.run m : Except Error α × Ledger).2

namespace AgreesFrom

theorem pure {look : α → γ} {a b : α} (h : look a = look b) :
    AgreesFrom R look (Pure.pure a) (Pure.pure b) :=
  fun _ _ hR => ⟨congrArg Except.ok h, hR⟩

theorem throw (look : α → γ) (e : Error) :
    AgreesFrom R look (MonadExcept.throw e) (MonadExcept.throw e) :=
  fun _ _ hR => ⟨rfl, hR⟩

theorem bind {v : α → γ} {w : β → δ} {x y : Attribution α} {f g : α → Attribution β}
    (first : AgreesFrom R v x y) (rest : ∀ a b, v a = v b → AgreesFrom R w (f a) (g b)) :
    AgreesFrom R w (x >>= f) (y >>= g) := by
  intro l m hR
  have first := first l m hR
  rw [run_bind, run_bind]
  generalize (x.run.run l : Except Error α × Ledger) = p,
    (y.run.run m : Except Error α × Ledger) = q at first ⊢
  obtain ⟨same, hR⟩ := first
  rcases p with ⟨e | a, l⟩
  · rcases q with ⟨e' | b, m⟩
    · exact ⟨congrArg Except.error (Except.error.inj same), hR⟩
    · cases same
  · rcases q with ⟨e' | b, m⟩
    · cases same
    · exact rest a b (Except.ok.inj same) l m hR

/-- A value that has to be there is the same for both. -/
theorem require_bind {look : β → γ} {x : Except Error α} {f g : α → Attribution β}
    (rest : ∀ a, AgreesFrom R look (f a) (g a)) :
    AgreesFrom R look (require x >>= f) (require x >>= g) := by
  intro l m hR
  rw [run_bind, run_bind]
  cases x with
  | error e => exact ⟨rfl, hR⟩
  | ok a => exact rest a l m hR

theorem require_map_bind {look : β → γ} {x : Except Error α} {s : α → δ}
    {f : α → Attribution β} {g : δ → Attribution β}
    (rest : ∀ a, AgreesFrom R look (f a) (g (s a))) :
    AgreesFrom R look (require x >>= f) (require (x.map s) >>= g) := by
  intro l m hR
  rw [run_bind, run_bind]
  cases x with
  | error e => exact ⟨rfl, hR⟩
  | ok a => exact rest a l m hR

/-- Steps for each of a list agree if they agree for each. -/
theorem each (look : β → γ) {f : α → Attribution β} {g : δ → Attribution β} {s : α → δ}
    {xs : List α} (same : ∀ x ∈ xs, AgreesFrom R look (f x) (g (s x))) :
    AgreesFrom R (List.map look) (each xs fun x _ => f x)
      (each (xs.map s) fun y _ => g y) := by
  induction xs with
  | nil => exact .pure rfl
  | cons x xs ih =>
    refine bind (same x (List.mem_cons_self ..)) fun a b first => ?_
    refine bind (ih fun y hy => same y (List.mem_cons_of_mem _ hy)) fun as bs rest => ?_
    exact .pure (by rw [List.map_cons, List.map_cons, first, rest])

end AgreesFrom

end Attribution

open Attribution

/-- A way to recast trees that keeps, from ledgers that correspond, what claims look like. -/
structure Recasting where
  recast : Node → Node
  recasts : Node.Recasts recast
  look : List Comment → CommentCounts
  look_nil : look [] = 0
  look_append : ∀ as bs, look (as ++ bs) = look as + look bs
  Corresponds : Ledger → Ledger → Prop
  adjacent : ∀ n p, AgreesFrom Corresponds look (claimAdjacent n p)
    (claimAdjacent (recast n) (recast p))
  own : ∀ n, AgreesFrom Corresponds look (claimOwn n) (claimOwn (recast n))
  attached : ∀ n, AgreesFrom Corresponds look (claimAttached n) (claimAttached (recast n))
  subtree : ∀ n, AgreesFrom Corresponds look (claimSubtree n) (claimSubtree (recast n))

/-! ## What elements look like -/

section Look

variable (v : List Comment → CommentCounts)

def Tally.seen (c : Tally TypeOf) : Nat × CommentCounts × List (TypeElement CommentCounts) :=
  (c.statements, v c.comments, c.types.map (·.map v))

structure MembersSeen where
  fields : List (FieldElement CommentCounts)
  methods : List (MethodElement CommentCounts)
  innerTypes : List (TypeElement CommentCounts)

def MemberParts.seen (p : MemberParts) : MembersSeen :=
  ⟨p.fields.map (·.map v), p.methods.map (·.map v), p.innerTypes.map (·.map v)⟩

def DeclaratorParts.seen (p : DeclaratorParts) :
    FieldElement CommentCounts × List (TypeElement CommentCounts) :=
  (p.field.map v, p.types.map (·.map v))

def OrdinaryUnit.seen (u : OrdinaryUnit (List Comment)) : OrdinaryUnit CommentCounts :=
  ⟨u.package, u.unit.map v, v u.packageComments⟩

theorem DeclaratorParts.map_fields (parts : List DeclaratorParts) :
    (parts.map (·.field)).map (·.map v) = (parts.map (seen v)).map (·.1) := by
  simp [seen]

theorem DeclaratorParts.map_types (parts : List DeclaratorParts) :
    (parts.map (·.types)).flatten.map (·.map v) = (parts.map (seen v)).flatMap (·.2) := by
  simp [seen, List.flatMap, List.map_flatten, Function.comp_def]

theorem MemberParts.seen_foldl (parts : List MemberParts) :
    (parts.foldl append empty).seen v =
      ⟨(parts.map (seen v)).flatMap (·.fields), (parts.map (seen v)).flatMap (·.methods),
        (parts.map (seen v)).flatMap (·.innerTypes)⟩ := by
  rw [foldl_append, seen, gather]
  simp [seen, List.map_flatMap, List.flatMap_map]

end Look

theorem collectOptionalCode_eq (n : Node) :
    (collectOptionalCode n fun t p _ => collectType t p) =
      n.code?.elim (pure Tally.empty) fun c => collectInside c n := by
  unfold collectOptionalCode
  split
  · rename_i hc
    simp only [hc, Option.elim_none]
  · rename_i c hc
    simp only [hc, Option.elim_some]
    rfl

namespace Recasting

variable (r : Recasting)

/-- The two steps go the same way, as far as it can be seen. -/
abbrev Agrees {α γ : Type} (look : α → γ) (x y : Attribution α) : Prop :=
  AgreesFrom r.Corresponds look x y

theorem look_flatMap {α : Type} (f : α → List Comment) (xs : List α) :
    r.look (xs.flatMap f) = (xs.map fun x => r.look (f x)).sum := by
  induction xs with
  | nil => exact r.look_nil
  | cons x xs ih => rw [List.flatMap_cons, r.look_append, ih, List.map_cons, List.sum_cons]

/-! ## Code -/

/-- The types within a node look the same when they are recast. -/
def InnerAgree (n : Node) : Prop :=
  ∀ t p, sizeOf t ≤ sizeOf n → r.Agrees (TypeElement.map r.look) (collectType t p)
    (collectType (r.recast t) (r.recast p))

variable {r}

theorem InnerAgree.child {n c : Node} (h : r.InnerAgree n) (hc : c ∈ n.children) :
    r.InnerAgree c :=
  fun t p hle => h t p (Nat.le_trans hle (Nat.le_of_lt (Node.sizeOf_lt_of_mem_children hc)))

theorem seen_foldl (parts : List (Tally TypeOf)) :
    (parts.foldl Tally.append Tally.empty).seen r.look =
      (((parts.map (Tally.seen r.look)).map (·.1)).sum,
        ((parts.map (Tally.seen r.look)).map (·.2.1)).sum,
        (parts.map (Tally.seen r.look)).flatMap (·.2.2)) := by
  rw [Tally.foldl_append, Tally.seen, Tally.gather, r.look_flatMap]
  simp [Tally.seen, List.map_flatMap, List.flatMap_map, Function.comp_def]

theorem collectInside_agrees {n : Node} (inner : r.InnerAgree n) (parent : Node) :
    r.Agrees (Tally.seen r.look) (collectInside n parent)
      (collectInside (r.recast n) (r.recast parent)) := by
  rw [collectInside_eq, collectInside_eq, r.recasts.visits]
  refine .bind (.each (Tally.seen r.look) fun e he => ?_) fun as bs same => ?_
  · cases e with
    | count k => exact .pure rfl
    | claim c =>
      refine .bind (r.own c) fun a b same => .pure ?_
      simp only [Tally.seen, same]
    | type t p =>
      refine .bind (inner t p (sizeOf_le_of_mem_visits n parent he)) fun a b same => .pure ?_
      simp only [Tally.seen, List.map_cons, List.map_nil, same]
    | fail e => exact .throw _ e
  · exact .pure (by rw [seen_foldl, seen_foldl, same])

theorem collectOptionalCode_agrees {n : Node} (inner : r.InnerAgree n) :
    r.Agrees (Tally.seen r.look) (collectOptionalCode n fun t p _ => collectType t p)
      (collectOptionalCode (r.recast n) fun t p _ => collectType t p) := by
  rw [collectOptionalCode_eq, collectOptionalCode_eq, r.recasts.code?]
  cases hc : n.code? with
  | none => exact .pure rfl
  | some c => exact collectInside_agrees (inner.child (Node.mem_children_of_code?_eq_some hc)) n

theorem collectArguments_agrees {n : Node} (inner : r.InnerAgree n)
    {within : ∀ a ∈ n.constantArguments, a ∈ n.children}
    {within' : ∀ a ∈ (r.recast n).constantArguments, a ∈ (r.recast n).children} :
    r.Agrees (Tally.seen r.look)
      (collectArguments n n.constantArguments within fun t p _ => collectType t p)
      (collectArguments (r.recast n) (r.recast n).constantArguments within'
        fun t p _ => collectType t p) := by
  show r.Agrees _ (each n.constantArguments (fun a _ => collectInside a n) >>= _)
    (each (r.recast n).constantArguments (fun a _ => collectInside a (r.recast n)) >>= _)
  rw [r.recasts.constantArguments]
  refine .bind (.each (Tally.seen r.look) fun a ha => ?_) fun as bs same => .pure ?_
  · exact collectInside_agrees (inner.child (Node.mem_children_of_mem_constantArguments ha)) n
  · rw [seen_foldl, seen_foldl, same]

/-! ## Members -/

theorem collectMethod_agrees {n : Node} (inner : r.InnerAgree n) (enclosing : Node) :
    r.Agrees (MethodElement.map r.look) (collectMethod n enclosing)
      (collectMethod (r.recast n) (r.recast enclosing)) := by
  unfold collectMethod collectMethodWith
  rw [r.recasts.methodName, r.recasts.methodKind]
  refine .require_bind fun text => .require_bind fun kind => .require_bind fun name => ?_
  refine .bind (r.adjacent n enclosing) fun _ _ above => ?_
  refine .bind (collectOptionalCode_agrees inner) fun a b code => ?_
  refine .bind (r.own n) fun _ _ own => .bind (r.subtree n) fun _ _ rest => .pure ?_
  obtain ⟨statements, comments, types⟩ : _ ∧ _ ∧ _ := by simpa [Tally.seen] using code
  simp only [MethodElement.map, TypeElement.mapAll_eq, r.look_append, statements, comments, types,
    above, own, rest]

theorem claimShared_agrees (declaration enclosing : Node) (isFirst : Bool) :
    r.Agrees r.look (claimShared declaration enclosing isFirst)
      (claimShared (r.recast declaration) (r.recast enclosing) isFirst) := by
  cases isFirst with
  | false => exact .pure rfl
  | true =>
    refine .bind (r.adjacent declaration enclosing) fun _ _ above => ?_
    refine .bind (r.attached declaration) fun _ _ attached => .pure ?_
    rw [r.look_append, r.look_append, above, attached]

theorem collectVariable_agrees {v : Node × Nat} (inner : r.InnerAgree v.1)
    (declaration enclosing : Node) (kind : FieldKind) :
    r.Agrees (DeclaratorParts.seen r.look) (collectVariable declaration enclosing kind v)
      (collectVariable (r.recast declaration) (r.recast enclosing) kind
        (r.recast v.1, v.2)) := by
  rw [collectVariable_eq, collectVariable_eq, r.recasts.requiredName, r.recasts v.1,
    Construct.initializer?_map]
  refine .require_bind fun text => .require_bind fun name => ?_
  refine .bind (claimShared_agrees declaration enclosing _) fun _ _ shared => ?_
  refine .bind (r.adjacent v.1 declaration) fun _ _ above => ?_
  cases v.1.construct.initializer? with
  | none => exact .throw _ _
  | some initializer =>
    refine .bind (collectOptionalCode_agrees inner) fun a b code => ?_
    refine .bind (r.own v.1) fun _ _ own => .pure ?_
    obtain ⟨-, comments, types⟩ : _ ∧ _ ∧ _ := by simpa [Tally.seen] using code
    simp only [DeclaratorParts.seen, FieldElement.map, r.look_append, shared, above, comments, own,
      types, Option.isSome_map]

theorem addToFirst_seen {as bs : List FieldOf} {rest rest' : List Comment}
    (fields : as.map (·.map r.look) = bs.map (·.map r.look)) (same : r.look rest = r.look rest') :
    (addToFirst rest as).map (·.map r.look) = (addToFirst rest' bs).map (·.map r.look) := by
  cases as with
  | nil =>
    cases bs with
    | nil => rfl
    | cons b bs => cases fields
  | cons a as =>
    cases bs with
    | nil => cases fields
    | cons b bs =>
      rw [List.map_cons, List.map_cons, List.cons.injEq] at fields
      obtain ⟨first, others⟩ := fields
      simp only [FieldElement.map, FieldElement.mk.injEq] at first
      obtain ⟨name, kind, statements, comments⟩ := first
      rw [addToFirst, addToFirst, List.map_cons, List.map_cons, others]
      simp only [FieldElement.map, r.look_append, name, kind, statements, comments, same]

theorem collectFields_agrees {n : Node} (inner : r.InnerAgree n) (enclosing : Node) :
    r.Agrees (MemberParts.seen r.look) (collectFields n enclosing)
      (collectFields (r.recast n) (r.recast enclosing)) := by
  unfold collectFields collectFieldsWith
  rw [r.recasts.fieldKind]
  refine .require_bind fun kind => ?_
  rw [collectDeclarators_eq, collectDeclarators_eq, r.recasts.fieldVariables, List.zipIdx_map,
    r.recasts n]
  cases n.construct with
  | fieldDeclaration _ _ _ =>
    refine .bind (.each (DeclaratorParts.seen r.look) fun v hv => ?_) fun as bs same => ?_
    · have hv := Node.mem_children_of_mem_fieldVariables (List.fst_mem_of_mem_zipIdx hv)
      exact collectVariable_agrees (inner.child hv) n enclosing kind
    · have empty : as.isEmpty = bs.isEmpty := by simpa using congrArg List.isEmpty same
      have given (rest rest' : List Comment) (h : r.look rest = r.look rest') :
          r.Agrees (MemberParts.seen r.look)
            (pure ⟨addToFirst rest (as.map (·.field)), [], (as.map (·.types)).flatten⟩)
            (pure ⟨addToFirst rest' (bs.map (·.field)), [], (bs.map (·.types)).flatten⟩) := by
        refine .pure ?_
        have fields : (as.map (·.field)).map (·.map r.look) =
            (bs.map (·.field)).map (·.map r.look) := by
          rw [DeclaratorParts.map_fields, DeclaratorParts.map_fields, same]
        simp only [MemberParts.seen, addToFirst_seen fields h, DeclaratorParts.map_types, same,
          List.map_nil]
      rw [empty]
      split
      · exact given [] [] rfl
      · exact .bind (r.own n) given
  | _ => exact .throw _ _

theorem collectFieldLike_agrees {n : Node} (inner : r.InnerAgree n) (enclosing : Node) :
    r.Agrees (MemberParts.seen r.look) (collectFieldLike n enclosing)
      (collectFieldLike (r.recast n) (r.recast enclosing)) := by
  unfold collectFieldLike collectFieldLikeWith
  rw [r.recasts.requiredName, r.recasts.fieldKind]
  refine .require_bind fun text => .require_bind fun kind => .require_bind fun name => ?_
  refine .bind (r.adjacent n enclosing) fun _ _ above => ?_
  refine .bind (v := fun c : Int × Tally TypeOf => (c.1, c.2.seen r.look)) ?_ fun a b code =>
    .bind (r.own n) fun _ _ own => .pure ?_
  · rw [r.recasts n]
    cases n.construct with
    | annotationMember _ _ default _ =>
      refine .bind (collectOptionalCode_agrees inner) fun a b code => .pure ?_
      cases default <;> exact congrArg (Prod.mk _) code
    | _ =>
      exact .bind (collectArguments_agrees inner) fun a b code => .pure (congrArg (Prod.mk 0) code)
  · obtain ⟨statements, code⟩ := Prod.mk.inj code
    obtain ⟨-, comments, types⟩ : _ ∧ _ ∧ _ := by simpa [Tally.seen] using code
    simp only [MemberParts.seen, List.map_cons, List.map_nil, FieldElement.map, r.look_append,
      statements, above, comments, own, types]

theorem collectMember_agrees {n : Node} (inner : r.InnerAgree n) (enclosing : Node) :
    r.Agrees (MemberParts.seen r.look) (collectMember n enclosing)
      (collectMember (r.recast n) (r.recast enclosing)) := by
  have fields := collectFields_agrees inner enclosing
  have fieldLike := collectFieldLike_agrees inner enclosing
  have method : r.Agrees (MemberParts.seen r.look)
      (do return ⟨[], [← collectMethod n enclosing], []⟩)
      (do return ⟨[], [← collectMethod (r.recast n) (r.recast enclosing)], []⟩) :=
    .bind (collectMethod_agrees inner enclosing) fun a b same => .pure (by
      simp only [MemberParts.seen, List.map_cons, List.map_nil, same])
  have type : r.Agrees (MemberParts.seen r.look)
      (do return ⟨[], [], [← collectType n enclosing]⟩)
      (do return ⟨[], [], [← collectType (r.recast n) (r.recast enclosing)]⟩) :=
    .bind (inner n enclosing (Nat.le_refl _)) fun a b same => .pure (by
      simp only [MemberParts.seen, List.map_cons, List.map_nil, same])
  unfold collectMember collectMemberWith
  rw [r.recasts n, r.recasts.label]
  cases n.construct with
  | fieldDeclaration _ _ _ => exact fields
  | callable sort _ _ _ _ =>
    cases sort with
    | unspecified => exact .throw _ _
    | method _ => exact method
    | constructor => exact method
  | initializerBlock _ _ => exact method
  | enumConstant _ _ body =>
    cases body with
    | none => exact fieldLike
    | some _ => exact type
  | annotationMember _ _ _ _ => exact fieldLike
  | typeDeclaration _ _ _ _ => exact type
  | enumDeclaration _ _ _ _ => exact type
  | _ => exact .throw _ _

/-! ## Types -/

theorem collectType_agrees (n parent : Node) :
    r.Agrees (TypeElement.map r.look) (collectType n parent)
      (collectType (r.recast n) (r.recast parent)) := by
  induction hn : sizeOf n using Nat.strong_induction_on generalizing n parent with
  | _ size ih =>
    have inner {c : Node} (hc : c ∈ n.children) : r.InnerAgree c := fun t p hle =>
      ih (sizeOf t) (hn ▸ Nat.lt_of_le_of_lt hle (Node.sizeOf_lt_of_mem_children hc)) t p rfl
    rw [collectType_eq, collectType_eq, r.recasts.typeName, r.recasts.typeKind,
      r.recasts.constantArguments, r.recasts.typeMembers]
    refine .require_bind fun text => .require_bind fun kind => .require_bind fun name => ?_
    refine .bind (r.adjacent n parent) fun _ _ above => ?_
    refine .bind (.each (Tally.seen r.look) fun a ha => ?_) fun as bs arguments => ?_
    · exact collectInside_agrees (inner (Node.mem_children_of_mem_constantArguments ha)) n
    refine .bind (.each (MemberParts.seen r.look) fun m hm => ?_) fun ps qs members => ?_
    · exact collectMember_agrees (inner (Node.mem_children_of_mem_typeMembers hm)) n
    refine .bind (r.own n) fun _ _ own => .pure ?_
    have code : (as.foldl Tally.append Tally.empty).seen r.look =
        (bs.foldl Tally.append Tally.empty).seen r.look := by
      rw [seen_foldl, seen_foldl, arguments]
    have parts : (ps.foldl MemberParts.append MemberParts.empty).seen r.look =
        (qs.foldl MemberParts.append MemberParts.empty).seen r.look := by
      rw [MemberParts.seen_foldl, MemberParts.seen_foldl, members]
    obtain ⟨-, comments, types⟩ : _ ∧ _ ∧ _ := by simpa only [Tally.seen, Prod.mk.injEq] using code
    obtain ⟨fields, methods, innerTypes⟩ := MembersSeen.mk.inj parts
    simp only [TypeElement.map, MethodElement.mapAll_eq, TypeElement.mapAll_eq, List.map_append,
      fields, methods, types, innerTypes, r.look_append, above, comments, own]

/-! ## Units -/

theorem claimUnitComments_agrees (n : Node) (imports : List Node) :
    r.Agrees r.look (claimUnitComments n imports)
      (claimUnitComments (r.recast n) (imports.map r.recast)) := by
  refine .bind (.each r.look fun i _ => r.own i) fun as bs imported => ?_
  refine .bind (r.own n) fun _ _ own => .bind (r.subtree n) fun _ _ rest => .pure ?_
  have flat (lists : List (List Comment)) : r.look lists.flatten = (lists.map r.look).sum := by
    simpa using r.look_flatMap id lists
  simp only [r.look_append, flat, imported, own, rest]

theorem claimPackageComments_agrees (n : Node) (package : Option Node) (hasTypes : Bool) :
    r.Agrees (fun p => (r.look p.1, r.look p.2)) (claimPackageComments n package hasTypes)
      (claimPackageComments (r.recast n) (package.map r.recast) hasTypes) := by
  cases package with
  | none => exact .pure rfl
  | some p =>
    cases hasTypes with
    | true => exact .bind (r.own p) fun _ _ own => .pure (by simp only [own])
    | false =>
      refine .bind (r.adjacent p n) fun _ _ above => .bind (r.own p) fun _ _ own => .pure ?_
      simp only [r.look_append, above, own]

theorem collectOrdinaryUnit_agrees (n : Node) (name : String) :
    r.Agrees (OrdinaryUnit.seen r.look) (collectOrdinaryUnit n name)
      (collectOrdinaryUnit (r.recast n) name) := by
  unfold collectOrdinaryUnit
  rw [r.recasts.unitParts, r.recasts.label]
  refine .require_map_bind fun ⟨package, imports, types, module⟩ => ?_
  cases module with
  | some module => exact .throw _ _
  | none =>
    refine .require_bind fun name => ?_
    refine .bind (.each (TypeElement.map r.look) fun t _ => collectType_agrees t n)
      fun as bs same => ?_
    rw [r.recasts.packageName, List.isEmpty_map]
    refine .require_bind fun text => ?_
    refine .bind (claimPackageComments_agrees n package !types.isEmpty) fun a b package => ?_
    obtain ⟨forUnit, forPackage⟩ := Prod.mk.inj package
    refine .bind (claimUnitComments_agrees n imports) fun _ _ rest => .pure ?_
    simp only [OrdinaryUnit.seen, UnitElement.map, r.look_append, same, forUnit, forPackage, rest]

theorem collectModule_agrees (n parent : Node) :
    r.Agrees (ModuleElement.map r.look) (collectModule n parent)
      (collectModule (r.recast n) (r.recast parent)) := by
  unfold collectModule
  rw [r.recasts.moduleParts]
  refine .require_map_bind fun ⟨name, isOpen, directives⟩ => ?_
  refine .require_bind fun name => .bind (r.adjacent n parent) fun _ _ above => ?_
  refine .bind (.each (fun p : DirectiveKind × List Comment => (p.1, r.look p.2)) fun d _ => ?_)
    fun as bs directives => ?_
  · rw [r.recasts.directiveKind]
    exact .require_bind fun kind => .bind (r.own d) fun _ _ own => .pure (by simp only [own])
  · refine .bind (r.own n) fun _ _ own => .pure ?_
    have kinds := congrArg (List.map Prod.fst) directives
    have comments := congrArg (fun ps => (ps.map Prod.snd).sum) directives
    simp only [List.map_map, Function.comp_def] at kinds comments
    have flat (ps : List (DirectiveKind × List Comment)) :
        r.look (ps.map (·.2)).flatten = (ps.map fun p => r.look p.2).sum := by
      rw [← List.flatMap_def, r.look_flatMap]
    simp only [ModuleElement.map, kinds, r.look_append, above, flat, comments, own]

theorem collectModularUnit_agrees (n : Node) (name : String) :
    r.Agrees (ModularUnitElement.map r.look) (collectModularUnit n name)
      (collectModularUnit (r.recast n) name) := by
  unfold collectModularUnit
  rw [r.recasts.unitParts, r.recasts.label]
  refine .require_map_bind fun ⟨package, imports, types, module⟩ => ?_
  cases module with
  | none => exact .throw _ _
  | some m =>
    refine .bind (collectModule_agrees m n) fun a b same => .require_bind fun name => ?_
    refine .bind (claimUnitComments_agrees n imports) fun _ _ rest => .pure ?_
    simp only [ModularUnitElement.map, same, rest]

/-- A unit is collected like the unit recast. -/
theorem collectUnit_agrees (r : Recasting) (n : Node) (name : String) :
    r.Agrees (CollectedUnit.map r.look) (collectUnit n name)
      (collectUnit (r.recast n) name) := by
  unfold collectUnit
  rw [r.recasts.unitParts]
  refine .require_map_bind fun ⟨package, imports, types, module⟩ => ?_
  cases module with
  | none =>
    exact .bind (collectOrdinaryUnit_agrees n name) fun a b same => .pure
      (congrArg CollectedUnit.ordinary same)
  | some m =>
    exact .bind (collectModularUnit_agrees n name) fun a b same => .pure
      (congrArg CollectedUnit.modular same)

end Recasting

/-! ## Without comments -/

/-- The count of comments that is put in the place of any others. -/
def noComments {β : Type} (_ : β) : CommentCounts :=
  0

/-- Claims always succeed, and what they claim cannot be seen. -/
def strippedRecasting : Recasting where
  recast := Node.stripped
  recasts := Node.recasts_stripped
  look := noComments
  look_nil := rfl
  look_append _ _ := rfl
  Corresponds _ _ := True
  adjacent _ _ _ _ _ := ⟨rfl, trivial⟩
  own _ _ _ _ := ⟨rfl, trivial⟩
  attached _ _ _ _ := ⟨rfl, trivial⟩
  subtree _ _ _ _ := ⟨rfl, trivial⟩

/-- From whatever ledgers, a unit fails, or is collected, as it is without comments. -/
theorem collectUnit_stripped (n : Node) (name : String) (l m : Ledger) :
    ((collectUnit n name).run.run l : Except Error _ × Ledger).1.map (CollectedUnit.map noComments) =
      ((collectUnit n.stripped name).run.run m : Except Error _ × Ledger).1.map
        (CollectedUnit.map noComments) :=
  (strippedRecasting.collectUnit_agrees n name l m trivial).1

end JavaCensus
