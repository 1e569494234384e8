import JavaCensus.Proofs.Rows

/-!
# Ownership

Collecting a tree gives what the rows of the tree say: every declaration becomes one element, the
elements belong to each other as their declarations do, and a method counts the statements that are
part of it.
-/
namespace JavaCensus

open Attribution

/-! ## Code -/

theorem countRows_append (method? : Option Place) (a b : List (Place × Nat)) :
    countRows method? (a ++ b) = countRows method? a ++ countRows method? b := by
  cases method? with
  | none => rfl
  | some _ => exact List.map_append

/-- The code is what the rows say: it counts the statements of the method, and its types are what
the other rows say. -/
def Tally.StandFor (code : Tally TypeOf) (h : Holder) (method? : Option Place)
    (rows : List Row) : Prop :=
  ∃ (counted : List (Place × Nat)) (rest : List Row),
    (counted.map (·.2)).sum = code.statements ∧ (MemberParts.ofTypes code.types).StandFor h rest ∧
    (countRows method? counted ++ rest).Perm rows

namespace Tally.StandFor

variable {a b code : Tally TypeOf} {h : Holder} {method? : Option Place} {rows others : List Row}

theorem nil (h : Holder) (method? : Option Place) (comments : List Comment) :
    StandFor ⟨0, comments, []⟩ h method? [] := by
  refine ⟨[], [], rfl, .nil h, ?_⟩
  cases method? <;> exact .refl _

theorem perm (stand : code.StandFor h method? rows) (p : rows.Perm others) :
    code.StandFor h method? others := by
  obtain ⟨counted, rest, sum, types, same⟩ := stand
  exact ⟨counted, rest, sum, types, same.trans p⟩

theorem append (ha : a.StandFor h method? rows) (hb : b.StandFor h method? others) :
    (a.append b).StandFor h method? (rows ++ others) := by
  obtain ⟨counted, rest, sum, types, same⟩ := ha
  obtain ⟨counted', rest', sum', types', same'⟩ := hb
  refine ⟨counted ++ counted', rest ++ rest', ?_, types.append types', ?_⟩
  · rw [List.map_append, List.sum_append, sum, sum']
    rfl
  · refine List.Perm.trans ?_ (same.append same')
    classical
    rw [List.perm_iff_count]
    intro row
    simp only [countRows_append, List.count_append]
    omega

theorem ofCount (k : Nat) (place : Place) :
    StandFor ⟨k, [], []⟩ h method? (countRows method? [(place, k)]) :=
  ⟨[(place, k)], [], rfl, .nil h, by rw [List.append_nil]⟩

theorem ofType {t : TypeOf} (stand : (MemberParts.ofTypes [t]).StandFor h rows) :
    StandFor ⟨0, [], [t]⟩ h method? rows := by
  refine ⟨[], rows, rfl, stand, ?_⟩
  cases method? <;> exact .refl _

/-- Outside of methods nothing but the types is left of code. -/
theorem types (stand : code.StandFor h none rows) :
    (MemberParts.ofTypes code.types).StandFor h rows := by
  obtain ⟨_, rest, -, types, same⟩ := stand
  exact types.perm same

theorem of_each {α : Type} {f : α → Attribution (Tally TypeOf)} {rows : α → List Row} {xs : List α}
    {parts : List (Tally TypeOf)} {l m : Ledger}
    (step : ∀ x ∈ xs, ∀ l part m, (f x).Returns l part m → part.StandFor h method? (rows x))
    (hparts : (each xs fun a _ => f a).Returns l parts m) :
    (gather parts).StandFor h method? (xs.flatMap rows) := by
  induction xs generalizing l parts with
  | nil =>
    obtain ⟨rfl, -⟩ := returns_each_nil.1 hparts
    exact .nil h method? []
  | cons x xs ih =>
    obtain ⟨part, k, rest, hpart, hrest, rfl⟩ := returns_each_cons.1 hparts
    exact (step x (List.mem_cons_self ..) l part k hpart).append
      (ih (fun y hy => step y (List.mem_cons_of_mem _ hy)) hrest)

end Tally.StandFor

/-- Collecting the type gives what its rows say, wherever the type stands. -/
def KeepsRows (t : Node) : Prop :=
  ∀ {parent : Node} {e : TypeOf} {l m : Ledger} {above : Lineage}, above.isVariable = false →
    (collectType t parent).Returns l e m →
    (MemberParts.ofTypes [e]).StandFor above.holder (t.typeRows above)

/-- Whatever the events give when they are carried out is what the rows say. -/
def EventsStandFor (events : List Visit) (h : Holder) (method? : Option Place)
    (rows : List Row) : Prop :=
  ∀ ⦃l m : Ledger⦄ ⦃parts : List (Tally TypeOf)⦄,
    (each events fun e _ => runVisit collectType e).Returns l parts m →
    (Tally.gather parts).StandFor h method? rows

namespace EventsStandFor

variable {h : Holder} {method? : Option Place} {rows others : List Row} {events more : List Visit}

theorem nil : EventsStandFor [] h method? [] := by
  intro l m parts hparts
  obtain ⟨rfl, -⟩ := returns_each_nil.1 hparts
  exact .nil h method? []

theorem perm (stand : EventsStandFor events h method? rows) (p : rows.Perm others) :
    EventsStandFor events h method? others :=
  fun _ _ _ hparts => (stand hparts).perm p

theorem append (first : EventsStandFor events h method? rows)
    (second : EventsStandFor more h method? others) :
    EventsStandFor (events ++ more) h method? (rows ++ others) := by
  intro l m parts hparts
  obtain ⟨as, k, bs, has, hbs, rfl⟩ := returns_each_append.1 hparts
  have both := (first has).append (second hbs)
  simpa only [Tally.gather, Tally.append, List.map_append, List.sum_append, List.flatMap_append]
    using both

theorem flatMap {α : Type} {events : α → List Visit} {rows : α → List Row} {xs : List α}
    (stand : ∀ x ∈ xs, EventsStandFor (events x) h method? (rows x)) :
    EventsStandFor (xs.flatMap events) h method? (xs.flatMap rows) := by
  induction xs with
  | nil => exact .nil
  | cons x xs ih =>
    rw [List.flatMap_cons, List.flatMap_cons]
    exact append (stand x (List.mem_cons_self ..))
      (ih fun y hy => stand y (List.mem_cons_of_mem _ hy))

theorem single {e : Visit} (stand : ∀ {l m part}, (runVisit collectType e).Returns l part m →
    part.StandFor h method? rows) : EventsStandFor [e] h method? rows := by
  intro l m parts hparts
  obtain ⟨part, k, rest, hpart, hrest, rfl⟩ := returns_each_cons.1 hparts
  obtain ⟨rfl, -⟩ := returns_each_nil.1 hrest
  simpa only [Tally.gather, List.map_cons, List.map_nil, List.sum_singleton,
    List.flatMap_singleton] using stand hpart

/-- What is claimed after the code of a construct changes nothing. -/
theorem claim (stand : EventsStandFor events h method? rows) (n : Node) :
    EventsStandFor (events ++ [.claim n]) h method? rows := by
  rw [← List.append_nil rows]
  refine stand.append (single fun {l m part} hpart => ?_)
  simp only [runVisit, returns_bind, returns_pure] at hpart
  obtain ⟨own, _, -, rfl, -⟩ := hpart
  exact .nil h method? own

theorem type {t : Node} {above : Lineage} (parent : Node) (method? : Option Place)
    (keeps : KeepsRows t) (entered : above.isVariable = false) :
    EventsStandFor [.type t parent] above.holder method? (t.typeRows above) := by
  refine single fun {l m part} hpart => ?_
  simp only [runVisit, returns_bind, returns_pure] at hpart
  obtain ⟨e, _, he, rfl, -⟩ := hpart
  exact .ofType (keeps entered he)

theorem fail (e : Error) : EventsStandFor [.fail e] h method? rows :=
  single fun hpart => absurd hpart not_returns_throw

end EventsStandFor

/-- Where nothing is declared, code belongs to what is around it. -/
theorem Lineage.outer_of_codeRole {n : Node} {i : Nat} (above : Lineage)
    (h : n.construct.codeRole = .counted ∨ n.construct.codeRole = .passedThrough ∨
      i < n.creationArguments.length) :
    holder (⟨n, i⟩ :: above) = above.holder ∧ method? (⟨n, i⟩ :: above) = above.method? ∧
      isVariable (⟨n, i⟩ :: above) = false := by
  have parts : n.construct.scope i = .outer ∧ n.construct.isMethod = false ∧
      n.construct.isMember = false ∧ n.construct.isFieldDeclaration = false := by
    unfold Node.creationArguments at h
    cases hn : n.construct with
    | objectCreation _ arguments body =>
      cases body <;> simp_all [Construct.codeRole, Construct.scope, Construct.isMethod,
        Construct.isMember, Construct.isFieldDeclaration]
    | _ => simp_all [Construct.codeRole, Construct.scope, Construct.isMethod,
        Construct.isMember, Construct.isFieldDeclaration]
  obtain ⟨scope, method, member, field⟩ := parts
  simp only [holder, method?, isVariable, scope, method, member, field, Bool.false_eq_true,
    if_false, and_self]

theorem Node.creationArguments_of_declaredType {n : Node}
    (h : n.construct.codeRole = .declaredType) : n.creationArguments = [] := by
  unfold creationArguments
  split
  · rename_i body hn
    cases body <;> simp [hn, Construct.codeRole] at h
  · rfl

theorem Construct.elementSort?_of_codeRole {α : Type} {x : Construct α}
    (h : x.codeRole = .counted ∨ x.codeRole = .passedThrough) : x.elementSort? = none := by
  unfold elementSort?
  split <;> simp_all [codeRole]

/-- A statement is its own row, and it may be part of a method. -/
theorem EventsStandFor.ownCount {n : Node} {above : Lineage}
    (role : n.construct.codeRole = .counted) (entered : above.isVariable = false) :
    EventsStandFor n.ownCount above.holder above.method? (Occurrence.rows ⟨n, above⟩) := by
  have sort := Construct.elementSort?_of_codeRole (.inl role)
  unfold Node.ownCount
  split
  · rename_i k count
    have rows : Occurrence.rows ⟨n, above⟩ = countRows above.method? [(above.place, k)] := by
      simp only [Occurrence.rows, Occurrence.declaration?, Occurrence.profile?,
        Occurrence.statement?, entered, sort, role, count]
      cases above.method? <;> rfl
    rw [rows]
    refine single fun hpart => ?_
    obtain ⟨rfl, -⟩ := returns_pure.1 hpart
    exact .ofCount k above.place
  · exact .fail _

/-- What is met in code. -/
theorem visits_standFor (n parent : Node) (above : Lineage) (entered : above.isVariable = false)
    (types : ∀ t, sizeOf t ≤ sizeOf n → KeepsRows t) :
    EventsStandFor (visits n parent) above.holder above.method? (n.rows above) := by
  induction n using Node.induction generalizing parent above with
  | step n ih =>
    have below {cs : List Node} (hcs : ∀ c ∈ cs, c ∈ n.children)
        (outer : ∀ c ∈ cs.zipIdx, n.construct.codeRole = .counted ∨
          n.construct.codeRole = .passedThrough ∨ c.2 < n.creationArguments.length) :
        EventsStandFor (cs.flatMap (visits · n)) above.holder above.method?
          (cs.zipIdx.flatMap fun c => c.1.rows (⟨n, c.2⟩ :: above)) := by
      rw [← flatMap_zipIdx _ cs 0]
      refine EventsStandFor.flatMap fun c hc => ?_
      obtain ⟨holder, method, variable'⟩ := Lineage.outer_of_codeRole above (outer c hc)
      have hc := hcs c.1 (List.fst_mem_of_mem_zipIdx hc)
      rw [← holder, ← method]
      exact ih c.1 hc n _ variable' fun t ht =>
        types t (Nat.le_of_lt (Nat.lt_of_le_of_lt ht (Node.sizeOf_lt_of_mem_children hc)))
    have self := EventsStandFor.type parent above.method?
      (types n (Nat.le_refl _)) entered
    rw [visits_eq]
    cases role : n.construct.codeRole with
    | declaredType =>
      rw [Node.typeRows_eq_rows (Node.creationArguments_of_declaredType role)] at self
      exact self
    | anonymousType =>
      have arguments := below (fun c => Node.mem_children_of_mem_creationArguments)
        fun c hc => .inr (.inr (List.snd_lt_of_mem_zipIdx hc))
      exact (arguments.append self).perm (n.rows_perm above)
    | counted =>
      have children := below (fun _ hc => hc) fun _ _ => .inl role
      rw [Node.rows_eq]
      exact ((EventsStandFor.ownCount role entered).append children).claim n
    | passedThrough =>
      have children := below (fun _ hc => hc) fun _ _ => .inr (.inl role)
      have own := Occurrence.rows_eq_nil (o := ⟨n, above⟩) entered
        (Construct.elementSort?_of_codeRole (.inr role)) (by simp [role])
      rw [Node.rows_eq, own, List.nil_append]
      exact children.claim n
    | foreign => exact EventsStandFor.fail _

/-! ## Declarations -/

section Declarations

variable {l m : Ledger} {above : Lineage}

/-- The code of a declaration, all of which belongs to the same element. -/
theorem collectRoots_standFor {n : Node} (above : Lineage) (k : Nat) (h : Holder)
    (method? : Option Place) {code : Tally TypeOf} (types : ∀ t, sizeOf t < sizeOf n → KeepsRows t)
    (scope : ∀ c ∈ n.codeRoots.zipIdx k, Lineage.holder (⟨n, c.2⟩ :: above) = h ∧
      Lineage.method? (⟨n, c.2⟩ :: above) = method? ∧
      Lineage.isVariable (⟨n, c.2⟩ :: above) = false)
    (hr : (collectRoots n).Returns l code m) : code.StandFor h method?
      ((n.codeRoots.zipIdx k).flatMap fun c => c.1.rows (⟨n, c.2⟩ :: above)) := by
  obtain ⟨parts, hparts, rfl⟩ := returns_collectRoots.1 hr
  rw [← each_zipIdx _ _ k] at hparts
  refine Tally.StandFor.of_each (fun c hc l part m hpart => ?_) hparts
  obtain ⟨rfl, rfl, entered⟩ := scope c hc
  obtain ⟨events, hevents, rfl⟩ := returns_collectInside.1 hpart
  have below := Node.sizeOf_lt_of_mem_children
    (Node.mem_children_of_mem_codeRoots (List.fst_mem_of_mem_zipIdx hc))
  exact visits_standFor c.1 n _ entered (fun t ht => types t (Nat.lt_of_le_of_lt ht below)) hevents

theorem Node.construct_of_methodName {n : Node} {name : String} (h : n.methodName = .ok name) :
    n.construct.elementSort? = some .method ∧ n.construct.codeRole = .foreign ∧
      n.construct.isMethod = true ∧ n.construct.isFieldDeclaration = false ∧
      (∀ i, n.construct.scope i = .method) ∧ n.children = n.codeRoots := by
  unfold methodName at h
  unfold Node.children codeRoots code? constantArguments
  split at h <;> rename_i hn <;> simp_all [Construct.elementSort?, Construct.codeRole,
    Construct.isMethod, Construct.isFieldDeclaration, Construct.scope, Construct.children]

/-- What a method, constructor or initializer declares. -/
theorem Occurrence.profile?_of_methodName {n enclosing : Node} {i : Nat} {name : ElementName}
    {kind : MethodKind} (entered : Lineage.isVariable (⟨enclosing, i⟩ :: above) = false)
    (sort : n.construct.elementSort? = some .method) (hname : n.methodName = .ok name.text)
    (hkind : n.methodKind enclosing = .ok kind) :
    profile? ⟨n, ⟨enclosing, i⟩ :: above⟩ = some (.method (.ok name.text) (.ok kind)) := by
  simp only [profile?, entered, sort, hname, parent, hkind]
  rfl

theorem collectMethod_standFor {n enclosing : Node} {i : Nat} {e : MethodOf}
    (types : ∀ t, sizeOf t < sizeOf n → KeepsRows t)
    (entered : Lineage.isVariable (⟨enclosing, i⟩ :: above) = false)
    (h : (collectMethod n enclosing).Returns l e m) :
    MemberParts.StandFor ⟨[], [e], []⟩ (Lineage.holder (⟨enclosing, i⟩ :: above))
      (n.rows (⟨enclosing, i⟩ :: above)) := by
  obtain ⟨name, kind, _, _, code, _, _, _, _, hname, hkind, -, hcode, -, -, rfl⟩ :=
    collectMethod_returns h
  obtain ⟨sort, role, method, field, scope, children⟩ := Node.construct_of_methodName hname
  have code := collectRoots_standFor (⟨enclosing, i⟩ :: above) 0
    (.method (Lineage.place (⟨enclosing, i⟩ :: above)))
    (some (Lineage.place (⟨enclosing, i⟩ :: above))) types (fun c hc => by
      simp only [Lineage.holder, Lineage.method?, Lineage.isVariable, scope, method, field, if_true,
        and_self]) hcode
  obtain ⟨counted, rest, sum, types, same⟩ := code
  have own := Occurrence.profile?_of_methodName entered sort hname hkind
  rw [Node.rows_eq, Occurrence.rows_of_profile? own (by simp [role]), children]
  exact (MemberParts.StandFor.ofMethod sum types).perm (same.cons _)

theorem Node.construct_of_isFieldDeclaration {n : Node}
    (h : n.construct.isFieldDeclaration = true) :
    n.construct.elementSort? = none ∧ n.construct.codeRole = .foreign ∧
      (∀ i, n.construct.scope i = .outer) ∧ n.construct.isMethod = false ∧
      n.construct.isMember = true ∧ n.children = n.fieldVariables := by
  unfold Construct.isFieldDeclaration at h
  unfold Node.children fieldVariables
  split at h <;> simp_all [Construct.elementSort?, Construct.codeRole, Construct.scope,
    Construct.isMethod, Construct.isMember, Construct.children]

theorem Node.construct_of_initializer? {n : Node} {initializer : Option Node}
    (h : n.construct.initializer? = some initializer) :
    n.construct.codeRole = .passedThrough ∧ n.children = n.codeRoots := by
  unfold Construct.initializer? at h
  unfold Node.children codeRoots code? constantArguments
  split at h <;> simp_all [Construct.codeRole, Construct.children]

/-- What a variable of a field declaration declares. -/
theorem Occurrence.profile?_of_variable {v declaration enclosing : Node} {i j : Nat}
    {name : ElementName} {kind : FieldKind} {initializer : Option Node}
    (field : declaration.construct.isFieldDeclaration = true)
    (hname : v.requiredName = .ok name.text) (hkind : declaration.fieldKind enclosing = .ok kind)
    (hinitializer : v.construct.initializer? = some initializer) :
    profile? ⟨v, ⟨declaration, j⟩ :: ⟨enclosing, i⟩ :: above⟩ =
      some (.field (.ok name.text) (.ok kind) (.ok (if initializer.isSome then 1 else 0))) := by
  simp only [profile?, Lineage.isVariable, field, if_true, hname, parent, grandparent, hkind,
    Node.initializerCount, hinitializer]

theorem collectVariable_standFor {declaration enclosing : Node} (i : Nat) (above : Lineage)
    {v : Node × Nat} {kind : FieldKind} {e : DeclaratorParts}
    (types : ∀ t, sizeOf t < sizeOf v.1 → KeepsRows t)
    (field : declaration.construct.isFieldDeclaration = true)
    (hkind : declaration.fieldKind enclosing = .ok kind)
    (h : (collectVariable declaration enclosing kind v).Returns l e m) :
    MemberParts.StandFor ⟨[e.field], [], e.types⟩ (Lineage.holder (⟨enclosing, i⟩ :: above))
      (v.1.rows (⟨declaration, v.2⟩ :: ⟨enclosing, i⟩ :: above)) := by
  obtain ⟨name, _, _, _, _, initializer, code, _, _, hname, -, -, hinitializer, hcode, -, rfl⟩ :=
    collectVariable_returns h
  obtain ⟨-, -, scope, method, member, -⟩ := Node.construct_of_isFieldDeclaration field
  obtain ⟨role, children⟩ := Node.construct_of_initializer? hinitializer
  have code := collectRoots_standFor (⟨declaration, v.2⟩ :: ⟨enclosing, i⟩ :: above) 0
    (Lineage.holder (⟨enclosing, i⟩ :: above)) none types (fun c hc => by
      obtain ⟨holder, around, inside⟩ := Lineage.outer_of_codeRole
        (⟨declaration, v.2⟩ :: ⟨enclosing, i⟩ :: above) (i := c.2) (.inr (.inl role))
      refine ⟨?_, ?_, inside⟩
      · rw [holder, Lineage.holder, scope]
      · rw [around, Lineage.method?, method, member]
        rfl) hcode
  have holder : Lineage.holder (⟨declaration, v.2⟩ :: ⟨enclosing, i⟩ :: above) =
      Lineage.holder (⟨enclosing, i⟩ :: above) := by
    rw [Lineage.holder, scope]
  rw [Node.rows_eq, Occurrence.rows_of_profile? (Occurrence.profile?_of_variable field hname hkind
    hinitializer) (by simp [role]), children, holder]
  exact MemberParts.StandFor.ofField.append code.types

theorem map_forget_addToFirst (comments : List Comment) (fields : List FieldOf) :
    (addToFirst comments fields).map (·.map forget) = fields.map (·.map forget) := by
  cases fields <;> rfl

theorem collectFields_standFor {n enclosing : Node} {i : Nat} {parts : MemberParts}
    (types : ∀ t, sizeOf t < sizeOf n → KeepsRows t)
    (entered : Lineage.isVariable (⟨enclosing, i⟩ :: above) = false)
    (field : n.construct.isFieldDeclaration = true)
    (h : (collectFields n enclosing).Returns l parts m) :
    parts.StandFor (Lineage.holder (⟨enclosing, i⟩ :: above))
      (n.rows (⟨enclosing, i⟩ :: above)) := by
  obtain ⟨kind, declared, _, rest, hkind, hdeclared, -, rfl⟩ := collectFields_returns h
  obtain ⟨sort, role, -, -, -, children⟩ := Node.construct_of_isFieldDeclaration field
  have own := Occurrence.rows_eq_nil (o := ⟨n, ⟨enclosing, i⟩ :: above⟩) entered sort
    (by simp [role])
  have stand := MemberParts.StandFor.of_each
    (fun e : DeclaratorParts => ⟨[e.field], [], e.types⟩) (fun v hv l e m he => by
    have hv := Node.mem_children_of_mem_fieldVariables (List.fst_mem_of_mem_zipIdx hv)
    exact collectVariable_standFor i above
      (fun t ht => types t (Nat.lt_trans ht (Node.sizeOf_lt_of_mem_children hv))) field hkind he)
    hdeclared
  rw [Node.rows_eq, own, List.nil_append, children]
  have gathered : MemberParts.gather (declared.map fun e => ⟨[e.field], [], e.types⟩) =
      ⟨declared.map (·.field), [], declared.flatMap (·.types)⟩ := by
    simp [MemberParts.gather, List.flatMap_map, ← List.map_eq_flatMap]
  rw [gathered] at stand
  exact stand.of_forget_eq (map_forget_addToFirst rest _)

theorem Node.construct_of_memberRole_field {n : Node} (h : n.construct.memberRole = .field) :
    n.construct.elementSort? = some .field ∧ n.construct.codeRole = .foreign ∧
      (∀ i, n.construct.scope i = .outer) ∧ n.construct.isMethod = false ∧
      n.construct.isMember = true ∧ n.construct.isFieldDeclaration = false ∧
      n.children = n.codeRoots := by
  unfold Construct.memberRole at h
  unfold Node.children codeRoots code? constantArguments
  split at h <;> simp_all [Construct.elementSort?, Construct.codeRole, Construct.scope,
    Construct.isMethod, Construct.isMember, Construct.isFieldDeclaration, Construct.children]

/-- What an enum constant without a body or an annotation element declares. -/
theorem Occurrence.profile?_of_field {n enclosing : Node} {i : Nat} {name : ElementName}
    {kind : FieldKind} (entered : Lineage.isVariable (⟨enclosing, i⟩ :: above) = false)
    (sort : n.construct.elementSort? = some .field) (hname : n.requiredName = .ok name.text)
    (hkind : n.fieldKind enclosing = .ok kind) :
    profile? ⟨n, ⟨enclosing, i⟩ :: above⟩ = some (.field (.ok name.text) (.ok kind)
      (.ok (if n.construct.hasDefault then 1 else 0))) := by
  simp only [profile?, entered, sort, hname, parent, hkind]
  rfl

theorem collectFieldLike_standFor {n enclosing : Node} {i : Nat} {parts : MemberParts}
    (types : ∀ t, sizeOf t < sizeOf n → KeepsRows t)
    (entered : Lineage.isVariable (⟨enclosing, i⟩ :: above) = false)
    (member : n.construct.memberRole = .field)
    (h : (collectFieldLike n enclosing).Returns l parts m) :
    parts.StandFor (Lineage.holder (⟨enclosing, i⟩ :: above))
      (n.rows (⟨enclosing, i⟩ :: above)) := by
  obtain ⟨name, kind, _, _, code, _, _, hname, hkind, -, hcode, -, rfl⟩ :=
    collectFieldLike_returns h
  obtain ⟨sort, role, scope, method, isMember, field, children⟩ :=
    Node.construct_of_memberRole_field member
  have code := collectRoots_standFor (⟨enclosing, i⟩ :: above) 0
    (Lineage.holder (⟨enclosing, i⟩ :: above)) none types (fun c hc => by
      refine ⟨?_, ?_, field⟩
      · rw [Lineage.holder, scope]
      · rw [Lineage.method?, method, isMember]
        rfl) hcode
  have own := Occurrence.profile?_of_field entered sort hname hkind
  rw [Node.rows_eq, Occurrence.rows_of_profile? own (by simp [role]), children]
  exact MemberParts.StandFor.ofField.append code.types

theorem Construct.isFieldDeclaration_of_memberRole {α : Type} {x : Construct α}
    (h : x.memberRole = .fields) : x.isFieldDeclaration = true := by
  cases x with
  | fieldDeclaration => rfl
  | callable sort => cases sort <;> cases h
  | enumConstant _ _ body => cases body <;> cases h
  | _ => cases h

theorem Node.construct_of_memberRole_type {n : Node} (h : n.construct.memberRole = .type) :
    n.construct.elementSort? = some .type ∧ n.construct.isFieldDeclaration = false ∧
      n.creationArguments = [] := by
  unfold creationArguments
  cases hn : n.construct with
  | typeDeclaration | enumDeclaration => exact ⟨rfl, rfl, rfl⟩
  | enumConstant _ _ body =>
    cases body with
    | none =>
      rw [hn] at h
      cases h
    | some => exact ⟨rfl, rfl, rfl⟩
  | callable sort =>
    rw [hn] at h
    cases sort <;> cases h
  | _ =>
    rw [hn] at h
    cases h

theorem collectMember_standFor {n enclosing : Node} {i : Nat} {parts : MemberParts}
    (types : ∀ t, sizeOf t ≤ sizeOf n → KeepsRows t)
    (entered : Lineage.isVariable (⟨enclosing, i⟩ :: above) = false)
    (h : (collectMember n enclosing).Returns l parts m) :
    parts.StandFor (Lineage.holder (⟨enclosing, i⟩ :: above))
      (n.rows (⟨enclosing, i⟩ :: above)) := by
  have below (t : Node) (ht : sizeOf t < sizeOf n) : KeepsRows t := types t (Nat.le_of_lt ht)
  have cases := collectMember_returns h
  split at cases
  · rename_i role
    exact collectFields_standFor below entered
      (Construct.isFieldDeclaration_of_memberRole role) cases
  · obtain ⟨e, he, rfl⟩ := cases
    exact collectMethod_standFor below entered he
  · rename_i role
    exact collectFieldLike_standFor below entered role cases
  · rename_i role
    obtain ⟨t, ht, rfl⟩ := cases
    have stand := types n (Nat.le_refl _) entered ht
    rw [Node.typeRows_eq_rows (Node.construct_of_memberRole_type role).2.2] at stand
    exact stand
  · exact cases.elim

/-- The arguments of an object creation come first, then the arguments of a constant, then the
members, and only one of the two can have arguments. -/
theorem Node.construct_of_typeKind {n : Node} {kind : TypeKind} (h : n.typeKind = .ok kind) :
    n.construct.elementSort? = some .type ∧ n.construct.codeRole ≠ .counted ∧
      n.construct.isFieldDeclaration = false ∧
      (∀ i, n.creationArguments.length ≤ i → n.construct.scope i = .type) ∧
      (n.codeRoots ≠ [] → n.construct.isMethod = false ∧ n.construct.isMember = true) ∧
      n.children = n.creationArguments ++ (n.codeRoots ++ n.typeMembers) := by
  unfold typeKind at h
  unfold Node.children codeRoots code? constantArguments creationArguments typeMembers
  split at h <;> simp_all [Construct.elementSort?, Construct.codeRole, Construct.scope,
    Construct.isMethod, Construct.isMember, Construct.isFieldDeclaration, Construct.children]

theorem Occurrence.profile?_of_typeKind {n : Node} {name : ElementName} {kind : TypeKind}
    (entered : above.isVariable = false) (sort : n.construct.elementSort? = some .type)
    (hname : n.typeName = .ok name.text) (hkind : n.typeKind = .ok kind) :
    profile? ⟨n, above⟩ = some (.type (.ok name.text) (.ok kind)) := by
  simp only [profile?, entered, sort, hname, hkind]
  rfl

/-- Every type gives what its rows say. -/
theorem collectType_keepsRows (n : Node) : KeepsRows n := by
  -- The types met in code are no children, so the induction is on the size.
  induction h : sizeOf n using Nat.strongRecOn generalizing n with
  | ind size ih =>
    subst h
    have types (t : Node) (ht : sizeOf t < sizeOf n) : KeepsRows t := ih _ ht t rfl
    intro parent e l m above entered h
    obtain ⟨name, kind, _, _, code, _, parts, _, _, hname, hkind, -, hcode, hparts, -, rfl⟩ :=
      collectType_returns h
    obtain ⟨sort, role, field, scope, roots, children⟩ := Node.construct_of_typeKind hkind
    have within {i : Nat} (hi : n.creationArguments.length ≤ i) :
        Lineage.holder (⟨n, i⟩ :: above) = .type above.place ∧
          Lineage.isVariable (⟨n, i⟩ :: above) = false := by
      refine ⟨?_, field⟩
      rw [Lineage.holder, scope i hi]
    have code := collectRoots_standFor above n.creationArguments.length (.type above.place) none
      types (fun c hc => by
        obtain ⟨holder, inside⟩ := within (List.le_snd_of_mem_zipIdx hc)
        refine ⟨holder, ?_, inside⟩
        obtain ⟨method, member⟩ := roots (List.ne_nil_of_mem (List.fst_mem_of_mem_zipIdx hc))
        rw [Lineage.method?, method, member]
        rfl) hcode
    rw [← each_zipIdx _ _ (n.creationArguments.length + n.codeRoots.length)] at hparts
    have members := MemberParts.StandFor.of_each (h := .type above.place) id (fun c hc _ _ _ h => by
      have hi := List.le_snd_of_mem_zipIdx hc
      obtain ⟨holder, inside⟩ := within (i := c.2) (by omega)
      have hc := Node.mem_children_of_mem_typeMembers (List.fst_mem_of_mem_zipIdx hc)
      rw [← holder]
      exact collectMember_standFor (fun t ht => types t
        (Nat.lt_of_le_of_lt ht (Node.sizeOf_lt_of_mem_children hc))) inside h) hparts
    rw [List.map_id] at members
    have own := Occurrence.profile?_of_typeKind entered sort hname hkind
    rw [Node.typeRows, Occurrence.rows_of_profile? own role, children, List.zipIdx_append,
      List.drop_left' List.length_zipIdx, List.zipIdx_append, List.flatMap_append, Nat.zero_add]
    exact MemberParts.StandFor.ofType (code.types.append members)

end Declarations

/-! ## Units -/

theorem MemberParts.gather_ofTypes (types : List TypeOf) :
    gather (types.map fun t => ofTypes [t]) = ofTypes types := by
  simp [gather, ofTypes, List.flatMap_map]

/-- The package, the imports and the types of a unit are what they are called. Below the types
anything may stand. -/
structure UnitParts.WellFormed (parts : UnitParts) : Prop where
  package : ∀ p ∈ parts.package, ∃ name, p.construct = .packageDeclaration name
  imports : ∀ i ∈ parts.imports, ∃ name isStatic isWildcard,
    i.construct = .importDeclaration name isStatic isWildcard
  types : ∀ t ∈ parts.types, t.construct.codeRole = .declaredType

theorem Node.rows_of_leaf {n : Node} {above : Lineage} (entered : above.isVariable = false)
    (sort : n.construct.elementSort? = none) (role : n.construct.codeRole ≠ .counted)
    (children : n.children = []) : n.rows above = [] := by
  rw [Node.rows_eq, children, Occurrence.rows_eq_nil entered sort role]
  rfl

/-- A unit without a module says what its types say. -/
theorem Node.rows_of_unit {n : Node} {package : Option Node} {imports types : List Node}
    (hn : n.construct = .compilationUnit package imports types none)
    (formed : UnitParts.WellFormed ⟨package, imports, types, none⟩) :
    n.rows [] = (types.zipIdx (package.toList ++ imports).length).flatMap
      fun t => t.1.rows [⟨n, t.2⟩] := by
  have own : Occurrence.rows ⟨n, []⟩ = [] := by
    apply Occurrence.rows_eq_nil rfl <;> simp [hn, Construct.elementSort?, Construct.codeRole]
  have inside (i : Nat) : Lineage.isVariable [⟨n, i⟩] = false := by
    simp only [Lineage.isVariable, hn, Construct.isFieldDeclaration]
  have leaves : (package.toList ++ imports).zipIdx.flatMap (fun c => c.1.rows [⟨n, c.2⟩]) = [] := by
    rw [List.flatMap_eq_nil_iff]
    intro c hc
    rcases List.mem_append.1 (List.fst_mem_of_mem_zipIdx hc) with hp | hi
    · obtain ⟨name, hp⟩ := formed.package c.1 (Option.mem_toList.1 hp)
      apply Node.rows_of_leaf (inside _) <;>
        simp [hp, Construct.elementSort?, Construct.codeRole, Node.children, Construct.children]
    · obtain ⟨name, isStatic, isWildcard, hi⟩ := formed.imports c.1 hi
      apply Node.rows_of_leaf (inside _) <;>
        simp [hi, Construct.elementSort?, Construct.codeRole, Node.children, Construct.children]
  rw [Node.rows_eq, own, Node.children, hn]
  simp only [Construct.children, Option.toList_none, List.append_nil, List.nil_append]
  rw [List.zipIdx_append, List.flatMap_append, leaves, List.nil_append, Nat.zero_add]

/-- The types of a unit are what its rows say. -/
theorem collectOrdinaryUnit_standFor {n : Node} {name : String} {parts : UnitParts}
    {u : OrdinaryUnit (List Comment)} {l m : Ledger} (hparts : n.unitParts = .ok parts)
    (formed : parts.WellFormed) (h : (collectOrdinaryUnit n name).Returns l u m) :
    (MemberParts.ofTypes u.unit.types).StandFor .unit (n.rows []) := by
  obtain ⟨package, imports, types, _, elements, _, _, _, _, _, _, hn, -, helements, -, -, -, rfl⟩ :=
    collectOrdinaryUnit_returns h
  obtain rfl : parts = ⟨package, imports, types, none⟩ := by
    simpa [Node.unitParts, hn] using hparts.symm
  rw [← each_zipIdx _ _ (package.toList ++ imports).length] at helements
  have stand := MemberParts.StandFor.of_each (h := .unit) (fun t => MemberParts.ofTypes [t])
    (fun c hc l t m ht => by
      have declared := formed.types c.1 (List.fst_mem_of_mem_zipIdx hc)
      have inside : Lineage.isVariable [⟨n, c.2⟩] = false := by
        simp only [Lineage.isVariable, hn, Construct.isFieldDeclaration]
      have stand := collectType_keepsRows c.1 inside ht
      rw [Node.typeRows_eq_rows (Node.creationArguments_of_declaredType declared)] at stand
      simpa only [Lineage.holder, hn, Construct.scope] using stand) helements
  rw [MemberParts.gather_ofTypes] at stand
  rw [Node.rows_of_unit hn formed]
  exact stand

end JavaCensus
