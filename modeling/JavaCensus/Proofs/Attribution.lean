import JavaCensus.Proofs.Conservation
import JavaCensus.Proofs.Delivery

/-!
# Attribution

Code and declarations deliver what their schedules offer: comments that stand in code go to whatever
is responsible for it, and every type, method and field holds what is claimed for it.
-/
namespace JavaCensus

open Attribution

/-! ## Code -/

def Tally.delivery (code : Tally TypeOf) : Delivery :=
  ⟨code.comments, .ofTypes code.types⟩

/-- However the events are carried out, they deliver what the steps offer. -/
def EventsDeliver (events : List Visit) (r : Recipient) (h : Holder) (steps : List ClaimStep)
    (rows : List Row) : Prop :=
  ∀ ⦃l m : Ledger⦄ ⦃parts : List (Tally TypeOf)⦄,
    (each events fun e _ => runVisit collectType e).Returns l parts m →
    Delivers r h l steps rows (Tally.gather parts).delivery m

namespace EventsDeliver

variable {r : Recipient} {h : Holder} {steps : List ClaimStep} {rows others : List Row}
  {events more : List Visit}

theorem nil : EventsDeliver [] r h [] [] := by
  intro l m parts hparts
  obtain ⟨rfl, rfl⟩ := returns_each_nil.1 hparts
  exact .nil r h l

theorem perm (deliver : EventsDeliver events r h steps rows) (p : rows.Perm others) :
    EventsDeliver events r h steps others :=
  fun _ _ _ hparts => (deliver hparts).perm p

theorem append {steps' : List ClaimStep} (first : EventsDeliver events r h steps rows)
    (second : EventsDeliver more r h steps' others) :
    EventsDeliver (events ++ more) r h (steps ++ steps') (rows ++ others) := by
  intro l m parts hparts
  obtain ⟨as, k, bs, has, hbs, rfl⟩ := returns_each_append.1 hparts
  have both := (first has).append (second hbs)
  simpa only [Tally.gather, Tally.delivery, Delivery.append, MemberParts.ofTypes,
    MemberParts.append, List.flatMap_append, List.append_nil] using both

theorem flatMap {α : Type} {events : α → List Visit} {steps : α → List ClaimStep}
    {rows : α → List Row} {xs : List α}
    (deliver : ∀ x ∈ xs, EventsDeliver (events x) r h (steps x) (rows x)) :
    EventsDeliver (xs.flatMap events) r h (xs.flatMap steps) (xs.flatMap rows) := by
  induction xs with
  | nil => exact .nil
  | cons x xs ih =>
    exact append (deliver x (List.mem_cons_self ..))
      (ih fun y hy => deliver y (List.mem_cons_of_mem _ hy))

theorem single {e : Visit} (deliver : ∀ {l m part}, (runVisit collectType e).Returns l part m →
    Delivers r h l steps rows part.delivery m) : EventsDeliver [e] r h steps rows := by
  intro l m parts hparts
  obtain ⟨part, k, rest, hpart, hrest, rfl⟩ := returns_each_cons.1 hparts
  obtain ⟨rfl, rfl⟩ := returns_each_nil.1 hrest
  simpa only [Tally.gather, Tally.delivery, List.flatMap_singleton] using deliver hpart

/-- A construct claims what is placed on it after its code. -/
theorem claim {o : Occurrence} (deliver : EventsDeliver events r h steps rows)
    (recipient : o.recipient = r) :
    EventsDeliver (events ++ [.claim o.node]) r h (steps ++ [ClaimStep.own o]) rows := by
  rw [← List.append_nil rows]
  refine deliver.append (single fun {l m part} hpart => ?_)
  simp only [runVisit, returns_bind, returns_pure] at hpart
  obtain ⟨own, _, hown, rfl, rfl⟩ := hpart
  exact .of_claim (s := .own o) recipient hown

theorem fail (e : Error) : EventsDeliver [.fail e] r h steps rows :=
  single fun hpart => absurd hpart not_returns_throw

theorem ownCount {n : Node} {above : Lineage} (role : n.construct.codeRole = .counted)
    (entered : above.isVariable = false) :
    EventsDeliver n.ownCount r h [] (Occurrence.rows ⟨n, above⟩) := by
  have sort := Construct.elementSort?_of_codeRole (.inl role)
  have none : (Occurrence.rows ⟨n, above⟩).filter (·.isDeclaration) = [] := by
    simp only [Occurrence.rows, Occurrence.declaration?, Occurrence.profile?,
      Occurrence.statement?, entered, sort, role]
    cases above.method? <;> rfl
  unfold Node.ownCount
  split
  · refine single fun hpart => ?_
    obtain ⟨rfl, rfl⟩ := returns_pure.1 hpart
    exact ⟨rfl, List.forall_mem_nil _, ⟨[], [], []⟩, rfl, by rw [none]; exact .refl _,
      List.forall_mem_nil _⟩
  · exact .fail _

end EventsDeliver

/-- Every field declaration at or below the node declares a variable. -/
def Node.DeclaresFields (n : Node) : Prop :=
  ∀ f ∈ n.walk, f.construct.isFieldDeclaration = true → f.fieldVariables ≠ []

theorem Node.DeclaresFields.of_mem_children {n c : Node} (h : n.DeclaresFields)
    (hc : c ∈ n.children) : c.DeclaresFields :=
  fun f hf => h f (mem_walk_of_mem_children hc hf)

/-- Collecting the type delivers what its schedule offers, wherever the type stands. -/
def Node.IsDelivered (t : Node) : Prop :=
  ∀ ⦃parent : Node⦄ ⦃i : Nat⦄ ⦃above : Lineage⦄ ⦃e : TypeOf⦄ ⦃l m : Ledger⦄,
    t.DeclaresFields → Lineage.isVariable (⟨parent, i⟩ :: above) = false →
    (collectType t parent).Returns l e m → ∀ r,
    Delivers r (Lineage.holder (⟨parent, i⟩ :: above)) l (t.typeSchedule (⟨parent, i⟩ :: above))
      (t.typeRows (⟨parent, i⟩ :: above)) ⟨[], .ofTypes [e]⟩ m

theorem Construct.elementSort?_of_typeRole {α : Type} {x : Construct α}
    (h : x.codeRole = .declaredType ∨ x.codeRole = .anonymousType) :
    x.elementSort? = some .type ∧ x.isFieldDeclaration = false := by
  cases x with
  | typeDeclaration | enumDeclaration => exact ⟨rfl, rfl⟩
  | objectCreation _ _ body => cases body <;> simp_all [codeRole, elementSort?, isFieldDeclaration]
  | bare family => cases family <;> simp [codeRole] at h
  | _ => simp [codeRole] at h

theorem visits_deliver (n parent : Node) (i : Nat) (above : Lineage)
    (entered : Lineage.isVariable (⟨parent, i⟩ :: above) = false) (fields : n.DeclaresFields)
    (types : ∀ t ∈ n.walk, t.IsDelivered) :
    EventsDeliver (visits n parent) (Lineage.surroundings (⟨parent, i⟩ :: above))
      (Lineage.holder (⟨parent, i⟩ :: above)) (n.schedule (⟨parent, i⟩ :: above))
      (n.rows (⟨parent, i⟩ :: above)) := by
  -- On the way down code keeps the recipient and the holder that it has at the top; only a type
  -- brings its own, and it is not entered here.
  induction n using Node.induction generalizing parent i above with
  | step n ih =>
    let o : Occurrence := ⟨n, ⟨parent, i⟩ :: above⟩
    have below {cs : List Node} (hcs : ∀ c ∈ cs, c ∈ n.children)
        (outer : ∀ c ∈ cs.zipIdx, (n.construct.codeRole = .counted ∨
          n.construct.codeRole = .passedThrough) ∨ c.2 < n.creationArguments.length) :
        EventsDeliver (cs.flatMap (visits · n)) o.above.surroundings o.above.holder
          (cs.zipIdx.flatMap fun c => c.1.schedule (⟨n, c.2⟩ :: o.above))
          (cs.zipIdx.flatMap fun c => c.1.rows (⟨n, c.2⟩ :: o.above)) := by
      rw [← flatMap_zipIdx _ cs 0]
      refine EventsDeliver.flatMap fun c hc => ?_
      have holder := Lineage.outer_of_codeRole o.above (n := n) (i := c.2)
        ((or_assoc).1 (outer c hc))
      have around : Lineage.surroundings (⟨n, c.2⟩ :: o.above) = o.above.surroundings :=
        Lineage.surroundings_of_outer
          ((outer c hc).imp_left fun role => (Occurrence.own?_of_codeRole (o := o) entered role).1)
      have hc := hcs c.1 (List.fst_mem_of_mem_zipIdx hc)
      rw [← holder.1, ← around]
      exact ih c.1 hc n c.2 o.above holder.2.2 (fields.of_mem_children hc)
        fun t ht => types t (Node.mem_walk_of_mem_children hc ht)
    have self : EventsDeliver [.type n parent] o.above.surroundings o.above.holder
        (n.typeSchedule o.above) (n.typeRows o.above) := by
      refine .single fun {l m part} hpart => ?_
      simp only [runVisit, returns_bind, returns_pure] at hpart
      obtain ⟨e, _, he, rfl, rfl⟩ := hpart
      exact types n n.mem_walk_self fields entered he _
    rw [visits_eq]
    cases role : n.construct.codeRole with
    | declaredType =>
      obtain ⟨sort, field⟩ := Construct.elementSort?_of_typeRole (.inl role)
      have own := Occurrence.own?_of_elementSort? (o := o) field sort
      have none := Node.creationArguments_of_declaredType role
      rw [Node.typeRows_eq_rows none] at self
      rw [Node.schedule_of_own (Option.isSome_of_eq_some own) field, none]
      exact self
    | anonymousType =>
      obtain ⟨sort, field⟩ := Construct.elementSort?_of_typeRole (.inr role)
      have own := Occurrence.own?_of_elementSort? (o := o) field sort
      have arguments := below (fun c => Node.mem_children_of_mem_creationArguments)
        fun c hc => .inr (List.snd_lt_of_mem_zipIdx hc)
      rw [Node.schedule_of_own (Option.isSome_of_eq_some own) field]
      exact (arguments.append self).perm (n.rows_perm _)
    | counted =>
      obtain ⟨own, field⟩ := Occurrence.own?_of_codeRole (o := o) entered (.inl role)
      have children := below (fun _ hc => hc) fun _ _ => .inl (.inl role)
      have recipient : o.recipient = o.above.surroundings := by
        rw [Occurrence.recipient, own, Option.getD_none]
      rw [Node.rows_eq, Node.schedule_of_code own field]
      exact ((EventsDeliver.ownCount role entered).append children).claim recipient
    | passedThrough =>
      obtain ⟨own, field⟩ := Occurrence.own?_of_codeRole (o := o) entered (.inr role)
      have children := below (fun _ hc => hc) fun _ _ => .inl (.inr role)
      have recipient : o.recipient = o.above.surroundings := by
        rw [Occurrence.recipient, own, Option.getD_none]
      have none := Occurrence.rows_eq_nil (o := o) entered
        (Construct.elementSort?_of_codeRole (.inr role)) (by simp [o, role])
      rw [Node.rows_eq, none, List.nil_append, Node.schedule_of_code own field]
      exact children.claim recipient
    | foreign => exact EventsDeliver.fail _

theorem Tally.delivery_gather (parts : List (Tally TypeOf)) :
    Delivery.gather (parts.map delivery) = (gather parts).delivery := by
  simp [Delivery.gather, gather, delivery, MemberParts.gather, MemberParts.ofTypes,
    List.flatMap_map, Function.comp_def]

/-! ## Declarations -/

section Declarations

variable {n : Node} {l m : Ledger} {above : Lineage}

/-- The code of a declaration, all of which belongs to the same element. -/
theorem collectRoots_delivers (above : Lineage) (k : Nat) {r : Recipient} {h : Holder}
    {code : Tally TypeOf} (fields : n.DeclaresFields)
    (types : ∀ c ∈ n.children, ∀ t ∈ c.walk, t.IsDelivered)
    (scope : ∀ c ∈ n.codeRoots.zipIdx k, Lineage.surroundings (⟨n, c.2⟩ :: above) = r ∧
      Lineage.holder (⟨n, c.2⟩ :: above) = h ∧ Lineage.isVariable (⟨n, c.2⟩ :: above) = false)
    (hr : (collectRoots n).Returns l code m) :
    Delivers r h l ((n.codeRoots.zipIdx k).flatMap fun c => c.1.schedule (⟨n, c.2⟩ :: above))
      ((n.codeRoots.zipIdx k).flatMap fun c => c.1.rows (⟨n, c.2⟩ :: above)) code.delivery m := by
  obtain ⟨parts, hparts, rfl⟩ := returns_collectRoots.1 hr
  rw [← each_zipIdx _ _ k] at hparts
  rw [← Tally.delivery_gather]
  refine Delivers.of_each Tally.delivery (fun c hc l part m hpart => ?_) hparts
  obtain ⟨rfl, rfl, entered⟩ := scope c hc
  obtain ⟨events, hevents, rfl⟩ := returns_collectInside.1 hpart
  have hc := Node.mem_children_of_mem_codeRoots (List.fst_mem_of_mem_zipIdx hc)
  exact visits_deliver c.1 n c.2 above entered (fields.of_mem_children hc) (types c.1 hc) hevents

theorem Node.creationArguments_of_elementSort? {sort : ElementSort}
    (h : n.construct.elementSort? = some sort) (other : sort ≠ .type) :
    n.creationArguments = [] := by
  unfold creationArguments
  split
  · rename_i body hn
    cases body <;> simp_all [Construct.elementSort?]
  · rfl

theorem Node.schedule_of_declaration (own : (Occurrence.own? ⟨n, above⟩).isSome)
    (field : n.construct.isFieldDeclaration = false) (none : n.creationArguments = []) :
    n.schedule above = [ClaimStep.adjacent ⟨n, above⟩] ++
      (n.children.zipIdx.flatMap fun c => c.1.schedule (⟨n, c.2⟩ :: above)) ++
        [ClaimStep.own ⟨n, above⟩] := by
  rw [schedule_of_own own field, typeSchedule, none]
  rfl

/-- A declaration around a piece of code: what is adjacent to it, what the code leaves over and what
is placed on it. -/
theorem declaration_delivers {enclosing : Node} {i : Nat} {h : Holder} {front own : List Comment}
    {code : Tally TypeOf} {l₁ l₂ : Ledger} (fields : n.DeclaresFields)
    (types : ∀ c ∈ n.children, ∀ t ∈ c.walk, t.IsDelivered)
    (recipient : Occurrence.own? ⟨n, ⟨enclosing, i⟩ :: above⟩ =
      some (.element (Lineage.place (⟨enclosing, i⟩ :: above))))
    (field : n.construct.isFieldDeclaration = false) (arguments : n.creationArguments = [])
    (children : n.children = n.codeRoots)
    (holder : ∀ j, Lineage.holder (⟨n, j⟩ :: ⟨enclosing, i⟩ :: above) = h)
    (hfront : (claimAdjacent n enclosing).Returns l front l₁)
    (hcode : (collectRoots n).Returns l₁ code l₂) (hown : (claimOwn n).Returns l₂ own m) :
    Delivers (.element (Lineage.place (⟨enclosing, i⟩ :: above))) h l
      (n.schedule (⟨enclosing, i⟩ :: above))
      (n.children.zipIdx.flatMap fun c => c.1.rows (⟨n, c.2⟩ :: ⟨enclosing, i⟩ :: above))
      ⟨front ++ code.comments ++ own, .ofTypes code.types⟩ m := by
  let o : Occurrence := ⟨n, ⟨enclosing, i⟩ :: above⟩
  have code := collectRoots_delivers o.above 0 (r := .element o.above.place) (h := h) fields types
    (fun c _ => ⟨Lineage.surroundings_of_own recipient (by simp [arguments]), holder c.2, field⟩)
    hcode
  have all := Delivers.around (Occurrence.recipient_of_own recipient) hfront code hown
  rw [Node.schedule_of_declaration (Option.isSome_of_eq_some recipient) field arguments, children]
  exact all

theorem collectMethod_delivers {enclosing : Node} {i : Nat} {e : MethodOf}
    (fields : n.DeclaresFields) (types : ∀ c ∈ n.children, ∀ t ∈ c.walk, t.IsDelivered)
    (entered : Lineage.isVariable (⟨enclosing, i⟩ :: above) = false)
    (h : (collectMethod n enclosing).Returns l e m) (r : Recipient) :
    Delivers r (Lineage.holder (⟨enclosing, i⟩ :: above)) l (n.schedule (⟨enclosing, i⟩ :: above))
      (n.rows (⟨enclosing, i⟩ :: above)) ⟨[], ⟨[], [e], []⟩⟩ m := by
  let o : Occurrence := ⟨n, ⟨enclosing, i⟩ :: above⟩
  obtain ⟨name, kind, _, _, code, _, _, l₃, rest, hname, hkind, habove, hcode, hown, hrest, rfl⟩ :=
    collectMethod_returns h
  obtain ⟨sort, role, -, field, scope, children⟩ := Node.construct_of_methodName hname
  have arguments := Node.creationArguments_of_elementSort? sort (by decide)
  have own := Occurrence.own?_of_elementSort? (o := o) field sort
  have holder (j : Nat) : Lineage.holder (⟨n, j⟩ :: o.above) = .method o.above.place := by
    rw [Lineage.holder, scope]
  have all := declaration_delivers fields types own field arguments children holder habove hcode
    hown
  -- the sweep through the body comes last and finds nothing
  have swept : n.subtreeComments ⊆ l₃.claimed := fun c hc => by
    rw [all.ledger]
    exact l.heldComments_subset_after (.refl _) (n.subtreeComments_perm.mem_iff.1 hc)
  obtain ⟨rfl, rfl⟩ := returns_claim.1 hrest
  rw [Ledger.fresh_of_subset swept, Ledger.claimAll_of_subset swept, List.append_nil]
  have profile := Occurrence.profile?_of_methodName entered sort hname hkind
  rw [Node.rows_eq, Occurrence.rows_of_profile? profile (by simp [role])]
  exact all.ofMethod _ r _

theorem Node.construct_of_isSome_initializer? {initializer : Option Node}
    (h : n.construct.initializer? = some initializer) :
    n.construct.isFieldDeclaration = false ∧ n.creationArguments = [] := by
  unfold Construct.initializer? at h
  unfold creationArguments
  split at h <;> simp_all [Construct.isFieldDeclaration]

/-- A variable of a field declaration, with what its field gets of the declaration as a whole
before it and after it. -/
theorem collectVariable_delivers {declaration enclosing : Node} (i : Nat) (above : Lineage)
    {kind : FieldKind} {v : Node × Nat} {e : DeclaratorParts} {place : Place} {h : Holder}
    {first last : List ClaimStep} {rows : List Row} {d : Delivery} {m' : Ledger}
    (fields : v.1.DeclaresFields) (types : ∀ c ∈ v.1.children, ∀ t ∈ c.walk, t.IsDelivered)
    (field : declaration.construct.isFieldDeclaration = true)
    (hkind : declaration.fieldKind enclosing = .ok kind)
    (stands : Lineage.place (⟨declaration, v.2⟩ :: ⟨enclosing, i⟩ :: above) = place)
    (inherited : Lineage.holder (⟨enclosing, i⟩ :: above) = h)
    (shared : ∀ cs k, (claimShared declaration enclosing (v.2 == 0)).Returns l cs k →
      Delivers (.element place) h l first [] ⟨cs, .empty⟩ k)
    (hv : (collectVariable declaration enclosing kind v).Returns l e m)
    (rest : Delivers (.element place) h m last rows d m') (r : Recipient) :
    Delivers r h l
      (first ++ v.1.schedule (⟨declaration, v.2⟩ :: ⟨enclosing, i⟩ :: above) ++ last)
      (v.1.rows (⟨declaration, v.2⟩ :: ⟨enclosing, i⟩ :: above) ++ rows)
      ⟨[], ⟨{ e.field with comments := e.field.comments ++ d.comments } :: d.parts.fields,
        d.parts.methods, e.types ++ d.parts.innerTypes⟩⟩ m' := by
  subst stands inherited
  let o : Occurrence := ⟨v.1, ⟨declaration, v.2⟩ :: ⟨enclosing, i⟩ :: above⟩
  obtain ⟨name, cs, k, _, _, initializer, code, _, _, hname, hshared, habove, hinitializer,
    hcode, hown, rfl⟩ := collectVariable_returns hv
  obtain ⟨-, -, scope, -, -, -⟩ := Node.construct_of_isFieldDeclaration field
  obtain ⟨role, children⟩ := Node.construct_of_initializer? hinitializer
  obtain ⟨plain, arguments⟩ := Node.construct_of_isSome_initializer? hinitializer
  have own := Occurrence.own?_of_variable (o := o) field
  have holder : Lineage.holder (⟨declaration, v.2⟩ :: ⟨enclosing, i⟩ :: above) =
      Lineage.holder (⟨enclosing, i⟩ :: above) := by
    rw [Lineage.holder, scope]
  have own := declaration_delivers fields types own plain arguments children (fun j => by
    rw [(Lineage.outer_of_codeRole o.above (.inr (.inl role))).1, holder]) habove hcode hown
  have all := (((shared cs k hshared).append own).append rest).withField name kind
    (if initializer.isSome then 1 else 0) r
  rw [Node.rows_eq, Occurrence.rows_of_profile? (Occurrence.profile?_of_variable field hname hkind
    hinitializer) (by simp [role])]
  simpa only [Delivery.append, MemberParts.append, MemberParts.empty, MemberParts.ofTypes,
    Tally.delivery, List.nil_append, List.append_nil, List.append_assoc, List.cons_append,
    holder] using all

/-- A variable that is not the first gets nothing of the declaration as a whole. -/
theorem collectVariable_delivers_alone {declaration enclosing : Node} (i : Nat) (above : Lineage)
    {kind : FieldKind} {v : Node × Nat} {e : DeclaratorParts} (later : v.2 ≠ 0)
    (fields : v.1.DeclaresFields) (types : ∀ c ∈ v.1.children, ∀ t ∈ c.walk, t.IsDelivered)
    (field : declaration.construct.isFieldDeclaration = true)
    (hkind : declaration.fieldKind enclosing = .ok kind)
    (hv : (collectVariable declaration enclosing kind v).Returns l e m) (r : Recipient) :
    Delivers r (Lineage.holder (⟨enclosing, i⟩ :: above)) l
      (v.1.schedule (⟨declaration, v.2⟩ :: ⟨enclosing, i⟩ :: above))
      (v.1.rows (⟨declaration, v.2⟩ :: ⟨enclosing, i⟩ :: above))
      ⟨[], ⟨[e.field], [], e.types⟩⟩ m := by
  have shared (cs : List Comment) (k : Ledger)
      (hcs : (claimShared declaration enclosing (v.2 == 0)).Returns l cs k) :
      Delivers (.element (Lineage.place (⟨declaration, v.2⟩ :: ⟨enclosing, i⟩ :: above)))
        (Lineage.holder (⟨enclosing, i⟩ :: above)) l [] [] ⟨cs, .empty⟩ k := by
    rw [beq_eq_false_iff_ne.2 later] at hcs
    obtain ⟨rfl, rfl⟩ := returns_pure.1 hcs
    exact .nil _ _ l
  have alone := collectVariable_delivers i above fields types field hkind rfl rfl shared hv
    (.nil _ _ m) r
  simpa only [MemberParts.empty, List.nil_append, List.append_nil] using alone

/-- What stands in front of a field declaration goes to the recipient of the declaration. -/
theorem claimShared_delivers {o : Occurrence} {r : Recipient} (h : Holder) {cs : List Comment}
    (recipient : o.recipient = r) (hcs : (claimShared o.node o.parent true).Returns l cs m) :
    Delivers r h l [ClaimStep.adjacent o, .attached o] [] ⟨cs, .empty⟩ m := by
  simp only [claimShared, returns_bind, returns_pure] at hcs
  obtain ⟨front, k, hfront, attached, _, hattached, rfl, rfl⟩ := hcs
  have first : Delivers r h l [.adjacent o] [] ⟨front, .empty⟩ k :=
    .of_claim recipient hfront
  exact first.append (.of_claim (s := .attached o) recipient hattached)

theorem collectFields_delivers {enclosing : Node} {i : Nat} {parts : MemberParts}
    (fields : n.DeclaresFields) (types : ∀ c ∈ n.children, ∀ t ∈ c.walk, t.IsDelivered)
    (entered : Lineage.isVariable (⟨enclosing, i⟩ :: above) = false)
    (field : n.construct.isFieldDeclaration = true)
    (h : (collectFields n enclosing).Returns l parts m) (r : Recipient) :
    Delivers r (Lineage.holder (⟨enclosing, i⟩ :: above)) l (n.schedule (⟨enclosing, i⟩ :: above))
      (n.rows (⟨enclosing, i⟩ :: above)) ⟨[], parts⟩ m := by
  let o : Occurrence := ⟨n, ⟨enclosing, i⟩ :: above⟩
  obtain ⟨kind, declared, l₁, rest, hkind, hdeclared, hrest, rfl⟩ := collectFields_returns h
  obtain ⟨sort, role, -, -, -, children⟩ := Node.construct_of_isFieldDeclaration field
  have recipient := Occurrence.recipient_of_own
    (Occurrence.own?_of_isFieldDeclaration (o := o) entered field)
  have none := Occurrence.rows_eq_nil (o := o) entered sort (by simp [o, role])
  have below (v : Node) (hv : v ∈ n.fieldVariables) :
      v.DeclaresFields ∧ ∀ c ∈ v.children, ∀ t ∈ c.walk, t.IsDelivered := by
    have hv := Node.mem_children_of_mem_fieldVariables hv
    exact ⟨fields.of_mem_children hv, fun c hc t ht =>
      types v hv t (Node.mem_walk_of_mem_children hc ht)⟩
  rw [Node.rows_eq, none, List.nil_append, Node.schedule_of_isFieldDeclaration field, children]
  cases hvs : n.fieldVariables with
  | nil => exact absurd hvs (fields n n.mem_walk_self field)
  | cons v vs =>
    rw [hvs] at hdeclared below
    rw [List.zipIdx_cons] at hdeclared ⊢
    obtain ⟨e, l₂, es, he, hes, rfl⟩ := returns_each_cons.1 hdeclared
    have others := Delivers.of_each (r := .element (0 :: o.above.place))
      (fun e : DeclaratorParts => ⟨[], ⟨[e.field], [], e.types⟩⟩) (fun w hw _ _ _ hw' => by
        obtain ⟨fields, types⟩ := below w.1 (List.mem_cons_of_mem _ (List.fst_mem_of_mem_zipIdx hw))
        have later : w.2 ≠ 0 := Nat.ne_of_gt (List.le_snd_of_mem_zipIdx hw)
        exact collectVariable_delivers_alone i above later fields types field hkind hw' _) hes
    have gathered : Delivery.gather (es.map fun e : DeclaratorParts =>
        ⟨[], ⟨[e.field], [], e.types⟩⟩) = ⟨[], ⟨es.map (·.field), [], es.flatMap (·.types)⟩⟩ := by
      simp [Delivery.gather, MemberParts.gather, List.flatMap_map, ← List.map_eq_flatMap]
    rw [gathered] at others
    have last : Delivers (.element (0 :: o.above.place)) o.above.holder l₁ [ClaimStep.own o] []
        ⟨rest, .empty⟩ m := .of_claim (s := .own o) recipient hrest
    obtain ⟨fields, types⟩ := below v (List.mem_cons_self ..)
    have all := collectVariable_delivers (v := (v, 0)) i above fields types field hkind rfl rfl
      (fun cs k => claimShared_delivers (o := o) o.above.holder recipient) he
      (others.append last) r
    simpa only [Delivery.append, MemberParts.append, MemberParts.empty, List.append_assoc,
      List.cons_append, List.nil_append, List.append_nil, List.flatMap_cons, List.map_cons,
      addToFirst] using all

theorem collectFieldLike_delivers {enclosing : Node} {i : Nat} {parts : MemberParts}
    (fields : n.DeclaresFields) (types : ∀ c ∈ n.children, ∀ t ∈ c.walk, t.IsDelivered)
    (entered : Lineage.isVariable (⟨enclosing, i⟩ :: above) = false)
    (member : n.construct.memberRole = .field)
    (h : (collectFieldLike n enclosing).Returns l parts m) (r : Recipient) :
    Delivers r (Lineage.holder (⟨enclosing, i⟩ :: above)) l (n.schedule (⟨enclosing, i⟩ :: above))
      (n.rows (⟨enclosing, i⟩ :: above)) ⟨[], parts⟩ m := by
  let o : Occurrence := ⟨n, ⟨enclosing, i⟩ :: above⟩
  obtain ⟨name, kind, _, _, code, _, _, hname, hkind, habove, hcode, hown, rfl⟩ :=
    collectFieldLike_returns h
  obtain ⟨sort, role, scope, -, -, field, children⟩ :=
    Node.construct_of_memberRole_field member
  have arguments := Node.creationArguments_of_elementSort? sort (by decide)
  have own := Occurrence.own?_of_elementSort? (o := o) field sort
  have holder (j : Nat) : Lineage.holder (⟨n, j⟩ :: o.above) = o.above.holder := by
    rw [Lineage.holder, scope]
  have all := declaration_delivers fields types own field arguments children holder habove hcode
    hown
  have profile := Occurrence.profile?_of_field entered sort hname hkind
  rw [Node.rows_eq, Occurrence.rows_of_profile? profile (by simp [role])]
  exact all.withField _ _ _ r

theorem collectMember_delivers {enclosing : Node} {i : Nat} {parts : MemberParts}
    (fields : n.DeclaresFields) (types : ∀ t ∈ n.walk, t.IsDelivered)
    (entered : Lineage.isVariable (⟨enclosing, i⟩ :: above) = false)
    (h : (collectMember n enclosing).Returns l parts m) (r : Recipient) :
    Delivers r (Lineage.holder (⟨enclosing, i⟩ :: above)) l (n.schedule (⟨enclosing, i⟩ :: above))
      (n.rows (⟨enclosing, i⟩ :: above)) ⟨[], parts⟩ m := by
  have below : ∀ c ∈ n.children, ∀ t ∈ c.walk, t.IsDelivered :=
    fun c hc t ht => types t (Node.mem_walk_of_mem_children hc ht)
  have cases := collectMember_returns h
  split at cases
  · rename_i role
    exact collectFields_delivers fields below entered
      (Construct.isFieldDeclaration_of_memberRole role) cases r
  · obtain ⟨e, he, rfl⟩ := cases
    exact collectMethod_delivers fields below entered he r
  · rename_i role
    exact collectFieldLike_delivers fields below entered role cases r
  · rename_i role
    obtain ⟨t, ht, rfl⟩ := cases
    have delivers := types n n.mem_walk_self fields entered ht r
    obtain ⟨sort, field, none⟩ := Node.construct_of_memberRole_type role
    have own := Occurrence.own?_of_elementSort? (o := ⟨n, ⟨enclosing, i⟩ :: above⟩) field sort
    rw [Node.typeRows_eq_rows none] at delivers
    rw [Node.schedule_of_own (Option.isSome_of_eq_some own) field, none]
    exact delivers
  · exact cases.elim

theorem Node.isDelivered_of_children
    (types : ∀ c ∈ n.children, ∀ t ∈ c.walk, t.IsDelivered) : n.IsDelivered := by
  intro parent i above e l m fields entered h r
  let o : Occurrence := ⟨n, ⟨parent, i⟩ :: above⟩
  obtain ⟨name, kind, _, _, code, _, parts, _, _, hname, hkind, habove, hcode, hparts, hown,
    rfl⟩ := collectType_returns h
  obtain ⟨sort, role, field, scope, -, children⟩ := construct_of_typeKind hkind
  have own := Occurrence.own?_of_elementSort? (o := o) field sort
  have within {j : Nat} (hj : n.creationArguments.length ≤ j) :
      Lineage.surroundings (⟨n, j⟩ :: o.above) = .element o.above.place ∧
        Lineage.holder (⟨n, j⟩ :: o.above) = .type o.above.place ∧
        Lineage.isVariable (⟨n, j⟩ :: o.above) = false := by
    refine ⟨Lineage.surroundings_of_own own hj, ?_, field⟩
    rw [Lineage.holder, scope j hj]
  have code := collectRoots_delivers o.above n.creationArguments.length fields types
    (fun c hc => within (List.le_snd_of_mem_zipIdx hc)) hcode
  -- The arguments of an object creation have been walked with the code around it, so the numbers
  -- of the members start behind them.
  rw [← each_zipIdx _ _ (n.creationArguments.length + n.codeRoots.length)] at hparts
  have members := Delivers.of_each (r := .element o.above.place) (h := .type o.above.place)
    (fun p : MemberParts => ⟨[], p⟩) (fun c hc _ _ _ h => by
      have hj := List.le_snd_of_mem_zipIdx hc
      obtain ⟨-, holder, inside⟩ := within (j := c.2) (by omega)
      have hc := mem_children_of_mem_typeMembers (List.fst_mem_of_mem_zipIdx hc)
      rw [← holder]
      exact collectMember_delivers (fields.of_mem_children hc) (types c.1 hc) inside h _) hparts
  have gathered : Delivery.gather (parts.map fun p => ⟨[], p⟩) =
      ⟨[], MemberParts.gather parts⟩ := by
    simp [Delivery.gather, Function.comp_def]
  rw [gathered] at members
  have all := (Delivers.around (Occurrence.recipient_of_own own) habove (code.append members)
    hown).ofType name kind r o.above.holder
  have profile := Occurrence.profile?_of_typeKind entered sort hname hkind
  rw [typeRows, typeSchedule, Occurrence.rows_of_profile? profile role, children,
    List.zipIdx_append, List.drop_left' List.length_zipIdx, List.zipIdx_append,
    List.flatMap_append, List.flatMap_append, Nat.zero_add]
  simpa only [Delivery.append, MemberParts.append, MemberParts.ofTypes, Tally.delivery,
    List.append_nil, List.nil_append, List.cons_append] using all

theorem Node.isDelivered (n : Node) : ∀ t ∈ n.walk, t.IsDelivered := by
  induction n using Node.induction with
  | step n ih =>
    intro t ht
    rw [walk_eq, List.mem_cons, List.mem_flatMap] at ht
    rcases ht with rfl | ⟨c, hc, ht⟩
    · exact isDelivered_of_children ih
    · exact ih c hc t ht

end Declarations

end JavaCensus
