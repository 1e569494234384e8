import JavaCensus.Proofs.Ownership
import JavaCensus.Proofs.Progress

/-!
# Totals of statements

What the total of a unit counts: the initializers of fields, the default values of annotation
elements, and the statements that are part of a method.
-/
namespace JavaCensus

open Attribution

/-! ## What rows count -/

namespace Row

/-- What a row adds to the count of statements. -/
def statements : Row → Int
  | declaration _ _ (.field _ _ (.ok count)) => count
  | statement _ _ (.ok count) => count
  | _ => 0

/-- A row whose count of statements, if it has one, is known. -/
def Known : Row → Prop
  | declaration _ _ (.field _ _ count) => ∃ k, count = .ok k
  | statement _ _ count => ∃ k, count = .ok k
  | _ => True

end Row

theorem statements_countRows (method : Place) (counted : List (Place × Nat)) :
    ((countRows (some method) counted).map (·.statements)).sum =
      ((counted.map (·.2)).sum : Nat) := by
  induction counted with
  | nil => rfl
  | cons c counted ih =>
    simp only [countRows, List.map_cons, List.sum_cons, Int.natCast_add] at ih ⊢
    rw [ih]
    rfl

theorem statements_fields (h : Holder) (fields : List (FieldElement Origin)) :
    ((fields.map (FieldElement.row h)).map (·.statements)).sum =
      ((fields.map Element.field).map (·.statements)).sum := by
  rw [List.map_map, List.map_map]
  rfl

theorem statements_flatMap {ι : Type} {xs : List ι} {rows : ι → List Row}
    {elements : ι → List (Element Origin)}
    (each : ∀ x ∈ xs, ((rows x).map (·.statements)).sum =
      ((elements x).map (·.statements)).sum) :
    ((xs.flatMap rows).map (·.statements)).sum =
      ((xs.flatMap elements).map (·.statements)).sum := by
  induction xs with
  | nil => rfl
  | cons x xs ih =>
    simp only [List.flatMap_cons, List.map_append, List.sum_append]
    rw [each x (List.mem_cons_self ..), ih fun y hy => each y (List.mem_cons_of_mem _ hy)]

/-- The rows of a type count what its elements count. -/
theorem TypeElement.statements_rows (t : TypeElement Origin) (h : Holder)
    (balanced : ∀ e ∈ t.elements, e.Balanced) :
    ((t.rows h).map (·.statements)).sum = (t.elements.map (·.statements)).sum := by
  induction t using TypeElement.induction (Q := fun m => ∀ h, (∀ e ∈ m.elements, e.Balanced) →
    ((m.rows h).map (·.statements)).sum = (m.elements.map (·.statements)).sum)
    generalizing h with
  | type t methods innerTypes =>
    rw [TypeElement.elements_eq] at balanced
    have inMethods := statements_flatMap fun m hm => methods m hm (.type t.comments.place)
      fun e he => balanced e (List.mem_append_left _ (List.mem_append_right _
        (List.mem_flatMap.2 ⟨m, hm, he⟩)))
    have inTypes := statements_flatMap fun s hs => innerTypes s hs (.type t.comments.place)
      fun e he => balanced e (List.mem_append_right _ (List.mem_flatMap.2 ⟨s, hs, he⟩))
    rw [TypeElement.rows_eq, TypeElement.elements_eq]
    simp only [List.map_cons, List.map_append, List.cons_append, List.sum_cons, List.sum_append,
      statements_fields, inMethods, inTypes]
    rfl
  | method m localTypes h balanced =>
    rw [MethodElement.elements_eq] at balanced
    have own : m.statements = ((m.comments.counted.map (·.2)).sum : Nat) :=
      balanced _ (List.mem_cons_self ..)
    have inTypes := statements_flatMap fun t ht => localTypes t ht (.method m.comments.place)
      fun e he => balanced e (List.mem_cons_of_mem _ (List.mem_flatMap.2 ⟨t, ht, he⟩))
    rw [MethodElement.rows_eq, MethodElement.elements_eq]
    simp only [List.map_cons, List.map_append, List.sum_cons, List.sum_append,
      statements_countRows, inTypes, Element.statements, own]
    exact Int.zero_add _

/-- The rows of a type leave no count open. -/
theorem TypeElement.known_rows (t : TypeElement Origin) (h : Holder) :
    ∀ row ∈ t.rows h, row.Known := by
  induction t using TypeElement.induction (Q := fun m => ∀ h, ∀ row ∈ m.rows h, row.Known)
    generalizing h with
  | type t methods innerTypes =>
    intro row hrow
    rw [TypeElement.rows_eq, List.mem_cons, List.mem_append, List.mem_append] at hrow
    rcases hrow with rfl | (hrow | hrow) | hrow
    · trivial
    · obtain ⟨f, -, rfl⟩ := List.mem_map.1 hrow
      exact ⟨_, rfl⟩
    · obtain ⟨m, hm, hrow⟩ := List.mem_flatMap.1 hrow
      exact methods m hm _ row hrow
    · obtain ⟨s, hs, hrow⟩ := List.mem_flatMap.1 hrow
      exact innerTypes s hs _ row hrow
  | method m localTypes h row hrow =>
    rw [MethodElement.rows_eq, List.mem_cons, List.mem_append] at hrow
    rcases hrow with rfl | hrow | hrow
    · trivial
    · obtain ⟨c, -, rfl⟩ := List.mem_map.1 hrow
      exact ⟨_, rfl⟩
    · obtain ⟨s, hs, hrow⟩ := List.mem_flatMap.1 hrow
      exact localTypes s hs _ row hrow

/-! ## What a statement counts -/

/-- The constructs that are one statement each, whatever stands in them. A call of a constructor is
one if it is written. -/
def Construct.isOneStatement {α : Type} : Construct α → Bool
  | .constructorCall _ _ isImplicit => !isImplicit
  | .assertStatement .. | .breakStatement _ | .continueStatement _ | .doStatement ..
  | .expressionStatement _ | .forStatement .. | .forEachStatement .. | .ifStatement ..
  | .returnStatement _ | .switchStatement .. | .switchEntry .. | .synchronizedStatement ..
  | .throwStatement _ | .whileStatement .. => true
  | _ => false

/-- The constructs that are no statement themselves, though they may hold some. -/
def Construct.isNoStatement {α : Type} : Construct α → Bool
  | .constructorCall _ _ isImplicit => isImplicit
  | .block _ | .emptyStatement | .labeledStatement .. | .yieldStatement _ => true
  | _ => false

/-- How many statements a construct makes on its own. For a declaration that is one for each
variable with an initializer, and a try statement makes one more than its resources. -/
inductive Construct.Makes : Construct Node → Nat → Prop where
  | one {x : Construct Node} (form : x.isOneStatement) : Makes x 1
  | none {x : Construct Node} (form : x.isNoStatement) : Makes x 0
  | resources {rs : List Node} {body : Node} {catches : List Node} {last : Option Node}
      (known : ∀ r ∈ rs, r.construct.initializer?.isSome) :
      Makes (.tryStatement rs body catches last) (1 + rs.countP (·.construct.isInitialized))
  | declarators {type : String} {ds : List Node}
      (known : ∀ d ∈ ds, d.construct.initializer?.isSome) :
      Makes (.localDeclaration type ds) (ds.countP (·.construct.isInitialized))

namespace Node

theorem isInitialized_of_initializer? {n : Node} {initializer : Option Node}
    (h : n.construct.initializer? = some initializer) :
    n.construct.isInitialized = initializer.isSome := by
  unfold Construct.initializer? at h
  split at h <;> simp_all [Construct.isInitialized]

theorem countInitialized_eq (ns : List Node) : countInitialized ns =
    if ∀ n ∈ ns, n.construct.initializer?.isSome then
      .ok (ns.countP (·.construct.isInitialized))
    else .error (.mishap .absentPart) := by
  induction ns with
  | nil => rfl
  | cons n ns ih =>
    cases hn : n.construct.initializer? with
    | none => simp [countInitialized, hn]
    | some initializer =>
      have first := isInitialized_of_initializer? hn
      simp only [countInitialized, hn, ih, List.forall_mem_cons, Option.isSome_some, true_and,
        List.countP_cons, first]
      by_cases known : ∀ m ∈ ns, m.construct.initializer?.isSome
      · simp only [if_pos known, Except.map]
      · simp only [if_neg known, Except.map]

theorem countInitialized_eq_ok {ns : List Node} {k : Nat} :
    countInitialized ns = .ok k ↔ (∀ n ∈ ns, n.construct.initializer?.isSome) ∧
      ns.countP (·.construct.isInitialized) = k := by
  rw [countInitialized_eq]
  split <;> simp_all

/-- The statements of a node are those that its construct makes. -/
theorem statementCount_eq_ok {n : Node} {k : Nat} :
    n.statementCount = .ok k ↔ n.construct.Makes k := by
  constructor
  · intro h
    cases hn : n.construct with
    | tryStatement rs body catches last =>
      rw [statementCount, hn] at h
      simp only [countInitialized_eq] at h
      split at h
      · cases h
        exact .resources ‹_›
      · cases h
    | localDeclaration type ds =>
      rw [statementCount, hn] at h
      obtain ⟨known, rfl⟩ := countInitialized_eq_ok.1 h
      exact .declarators known
    | constructorCall _ _ isImplicit =>
      rw [statementCount, hn] at h
      cases isImplicit <;> cases h
      · exact .one rfl
      · exact .none rfl
    | block | emptyStatement | labeledStatement | yieldStatement =>
      rw [statementCount, hn] at h
      cases h
      exact .none rfl
    | _ =>
      rw [statementCount, hn] at h
      cases h <;> exact .one rfl
  · intro h
    unfold statementCount
    generalize n.construct = x at h
    cases h with
    | one form =>
      cases x with
      | constructorCall _ _ isImplicit =>
        cases isImplicit
        · rfl
        · cases form
      | _ => first | rfl | cases form
    | none form =>
      cases x with
      | constructorCall _ _ isImplicit =>
        cases isImplicit
        · cases form
        · rfl
      | _ => first | rfl | cases form
    | resources known =>
      simp only [countInitialized_eq, if_pos known]
      rfl
    | declarators known => exact countInitialized_eq_ok.2 ⟨known, rfl⟩

end Node

/-- The steps over a list that succeed give their results in the same order. -/
theorem forall₂_of_mapM {ε α β : Type} {f : α → Except ε β} {xs : List α} {ys : List β}
    (h : xs.mapM f = .ok ys) : List.Forall₂ (fun x y => f x = .ok y) xs ys := by
  induction xs generalizing ys with
  | nil =>
    cases h
    exact .nil
  | cons x xs ih =>
    rw [List.mapM_cons] at h
    cases hx : f x with
    | error e =>
      rw [hx] at h
      cases h
    | ok y =>
      cases hxs : xs.mapM f with
      | error e =>
        rw [hx, hxs] at h
        cases h
      | ok zs =>
        rw [hx, hxs] at h
        cases h
        exact .cons hx (ih hxs)

/-! ## What trees count -/

/-- A statement or switch entry that is part of a method. -/
def Occurrence.isCounted (o : Occurrence) : Bool :=
  decide (o.node.construct.codeRole = .counted) && o.above.method?.isSome

theorem Construct.elementSort?_of_hasDefault {α : Type} {x : Construct α}
    (h : x.hasDefault = true) : x.elementSort? = some .field ∧ x.codeRole = .foreign := by
  unfold hasDefault at h
  split at h
  · exact ⟨rfl, rfl⟩
  · cases h

/-- What can be asked for its initializer is no statement and has no default value. -/
theorem Node.construct_of_initializerCount {n : Node} {k : Int} (h : n.initializerCount = .ok k) :
    k = (if n.construct.isInitialized then 1 else 0) ∧ n.construct.hasDefault = false ∧
      n.construct.codeRole = .passedThrough := by
  unfold initializerCount at h
  split at h
  · cases h
  · rename_i initializer hn
    unfold Construct.initializer? at hn
    split at hn <;> simp_all [Construct.isInitialized, Construct.hasDefault, Construct.codeRole]

/-- What nodes count: the initializers of variables, the default values and the statements. -/
structure Occurrence.Counts (os : List Occurrence) (counts : List Nat) : Prop where
  statements : (os.filter (·.isCounted)).mapM (·.node.statementCount) = .ok counts
  sum : ((os.flatMap (·.rows)).map (·.statements)).sum =
    os.countP (fun o => o.above.isVariable && o.node.construct.isInitialized) +
      os.countP (·.node.construct.hasDefault) + (counts.sum : Nat)

namespace Occurrence

variable {o : Occurrence}

theorem statements_of_not_counted (h : o.isCounted = false) :
    ([o].filter (·.isCounted)).mapM (·.node.statementCount) = .ok [] := by
  rw [List.filter_cons_of_neg (by rw [h]; exact Bool.false_ne_true)]
  rfl

theorem counts_of_isVariable (inside : o.above.isVariable = true)
    (known : ∀ row ∈ o.rows, row.Known) : Counts [o] [] := by
  have profile : o.profile? = some (.field o.node.requiredName (o.parent.fieldKind o.grandparent)
      o.node.initializerCount) := by
    rw [profile?, if_pos inside]
  have row : .declaration o.above.place o.above.holder (.field o.node.requiredName
      (o.parent.fieldKind o.grandparent) o.node.initializerCount) ∈ o.rows := by
    rw [rows, declaration?, profile]
    exact List.mem_append_left _ (List.mem_cons_self ..)
  obtain ⟨k, count⟩ := known _ row
  obtain ⟨hk, default, role⟩ := Node.construct_of_initializerCount count
  refine ⟨statements_of_not_counted (by simp [isCounted, role]), ?_⟩
  · rw [List.flatMap_singleton, rows_of_profile? profile (by simp [role])]
    simp only [count, hk, List.map_cons, List.map_nil, Row.statements, List.sum_singleton,
      List.countP_singleton, inside, default]
    cases o.node.construct.isInitialized <;> rfl

theorem counts_of_counted (entered : o.above.isVariable = false)
    (role : o.node.construct.codeRole = .counted) (known : ∀ row ∈ o.rows, row.Known) :
    ∃ counts, Counts [o] counts := by
  have sort := Construct.elementSort?_of_codeRole (.inl role)
  have default : o.node.construct.hasDefault = false := Bool.eq_false_iff.2 fun h => by
    simp [(Construct.elementSort?_of_hasDefault h).1] at sort
  have rows : o.rows = (o.above.method?.map fun method =>
      .statement o.above.place method o.node.statementCount).toList := by
    simp only [Occurrence.rows, declaration?, profile?, statement?, entered, sort, role]
    rfl
  cases around : o.above.method? with
  | none =>
    refine ⟨[], statements_of_not_counted (by simp [isCounted, around]), ?_⟩
    simp [rows, around, entered, default]
  | some method =>
    have counted : o.isCounted = true := by simp [isCounted, around, role]
    rw [around] at rows
    obtain ⟨k, count⟩ := known (.statement o.above.place method o.node.statementCount)
      (by simp [rows])
    refine ⟨[k], by simp [counted, count], ?_⟩
    simp [rows, count, Row.statements, entered, default]

theorem counts_of_not_counted (entered : o.above.isVariable = false)
    (role : o.node.construct.codeRole ≠ .counted) : Counts [o] [] := by
  have rows : o.rows = o.declaration?.toList := by
    rw [Occurrence.rows, statement?, if_neg role]
    exact List.append_nil _
  refine ⟨statements_of_not_counted (by simp [isCounted, role]), ?_⟩
  · have noDefault (h : o.node.construct.elementSort? ≠ some .field) :
        o.node.construct.hasDefault = false :=
      Bool.eq_false_iff.2 fun default => h (Construct.elementSort?_of_hasDefault default).1
    cases sort : o.node.construct.elementSort? with
    | none => simp [rows, declaration?, profile?, entered, sort, noDefault]
    | some sort' =>
      cases sort' with
      | type | method =>
        simp [rows, declaration?, profile?, entered, sort, noDefault, Row.statements]
      | field =>
        simp only [List.flatMap_singleton, rows, declaration?, profile?, entered, sort,
          Row.statements, Option.map_some, Option.toList_some, List.map_cons, List.map_nil,
          List.sum_singleton, List.countP_singleton, Bool.false_eq_true, if_false, Bool.false_and]
        cases o.node.construct.hasDefault <;> rfl

theorem Counts.append {os others : List Occurrence} {a b : List Nat} (h : Counts os a)
    (k : Counts others b) : Counts (os ++ others) (a ++ b) where
  statements := by
    rw [List.filter_append, List.mapM_append, h.statements, k.statements]
    rfl
  sum := by
    simp only [List.flatMap_append, List.map_append, List.sum_append, h.sum, k.sum,
      List.countP_append, Int.natCast_add]
    omega

/-- If no row leaves a count open, every statement has its count. -/
theorem counts_of_known {os : List Occurrence}
    (known : ∀ row ∈ os.flatMap (·.rows), row.Known) : ∃ counts, Counts os counts := by
  induction os with
  | nil => exact ⟨[], rfl, rfl⟩
  | cons o os ih =>
    have first : ∀ row ∈ o.rows, row.Known := fun row h =>
      known row (List.mem_append_left _ h)
    obtain ⟨rest, hrest⟩ := ih fun row h => known row (List.mem_append_right _ h)
    have one : ∃ counts, Counts [o] counts := by
      cases entered : o.above.isVariable with
      | true => exact ⟨[], counts_of_isVariable entered first⟩
      | false =>
        by_cases role : o.node.construct.codeRole = .counted
        · exact counts_of_counted entered role first
        · exact ⟨[], counts_of_not_counted entered role⟩
    obtain ⟨counts, hcounts⟩ := one
    exact ⟨counts ++ rest, hcounts.append hrest⟩

end Occurrence

/-- The variables of a tree are the variables of its field declarations. -/
theorem Node.countP_isVariable (p : Node → Bool) (n : Node) (above : Lineage) :
    (n.occurrences above).countP (fun o => o.above.isVariable && p o.node) =
      (if above.isVariable && p n then 1 else 0) +
        (n.walk.flatMap (·.fieldVariables)).countP p := by
  induction n using Node.induction generalizing above with
  | step n ih =>
    have children (cs : List (Node × Nat)) (within : ∀ c ∈ cs, c.1 ∈ n.children) :
        (cs.flatMap fun c => c.1.occurrences (⟨n, c.2⟩ :: above)).countP
            (fun o => o.above.isVariable && p o.node) =
          (if n.construct.isFieldDeclaration then (cs.map (·.1)).countP p else 0) +
            (cs.flatMap fun c => c.1.walk.flatMap (·.fieldVariables)).countP p := by
      induction cs with
      | nil => simp
      | cons c cs ihcs =>
        rw [List.flatMap_cons, List.countP_append, ih c.1 (within c (List.mem_cons_self ..)),
          ihcs fun d hd => within d (List.mem_cons_of_mem _ hd), Lineage.isVariable,
          List.flatMap_cons, List.countP_append, List.map_cons, List.countP_cons]
        cases n.construct.isFieldDeclaration with
        | false => simp
        | true =>
          simp only [Bool.true_and, if_true]
          omega
    have own : n.fieldVariables = if n.construct.isFieldDeclaration then n.children else [] := by
      unfold fieldVariables Node.children
      cases hn : n.construct <;> rfl
    rw [occurrences_eq, walk_eq, List.countP_cons, children _ fun c hc =>
      List.fst_mem_of_mem_zipIdx hc, List.zipIdx_map_fst, List.flatMap_cons, List.countP_append,
      own, flatMap_zipIdx (fun c : Node => c.walk.flatMap (·.fieldVariables)), List.flatMap_assoc]
    cases n.construct.isFieldDeclaration with
    | false =>
      simp only [Bool.false_eq_true, if_false, List.countP_nil]
      omega
    | true =>
      simp only [if_true]
      omega

/-- The statements of a unit are the initialized variables of its field declarations, its
annotation elements with a default value, and what the statements in its methods count, each of
them what its construct makes. -/
theorem collectOrdinaryUnit_statements {n : Node} {name : String} {parts : UnitParts}
    {u : OrdinaryUnit (List Comment)} {l m : Ledger} (hparts : n.unitParts = .ok parts)
    (formed : parts.WellFormed) (h : (collectOrdinaryUnit n name).Returns l u m) :
    ∃ counts, ((n.occurrences []).filter (·.isCounted)).mapM (·.node.statementCount) = .ok counts ∧
      List.Forall₂ (fun o k => o.node.construct.Makes k)
        ((n.occurrences []).filter (·.isCounted)) counts ∧
      (u.unit.map CommentCounts.ofComments).total.statements =
        (n.walk.flatMap (·.fieldVariables)).countP (·.construct.isInitialized) +
          n.walk.countP (·.construct.hasDefault) + (counts.sum : Nat) := by
  obtain ⟨fields, methods, types, hf, hm, ht, balanced, same⟩ :=
    collectOrdinaryUnit_standFor hparts formed h
  obtain rfl := List.map_eq_nil_iff.1 hf
  obtain rfl := List.map_eq_nil_iff.1 hm
  have rows : (types.flatMap (·.rows .unit)).Perm (n.rows []) := same
  obtain ⟨counts, hcounts⟩ := Occurrence.counts_of_known fun row hrow => by
    obtain ⟨t, -, hrow⟩ := List.mem_flatMap.1 (rows.mem_iff.2 hrow)
    exact t.known_rows .unit row hrow
  have made := (forall₂_of_mapM hcounts.statements).imp fun _ _ => Node.statementCount_eq_ok.1
  refine ⟨counts, hcounts.statements, made, ?_⟩
  have labelled : (types.flatMap (·.elements)).map (·.statements) =
      (u.unit.types.flatMap (·.elements)).map (·.statements) := by
    rw [← TypeElement.statements_map forget types, ht, TypeElement.statements_map]
    rfl
  have variables' := n.countP_isVariable (·.construct.isInitialized) []
  calc (u.unit.map CommentCounts.ofComments).total.statements
      = ((types.flatMap (·.elements)).map (·.statements)).sum := by
        rw [UnitElement.statements_total, labelled]
        exact congrArg List.sum (TypeElement.statements_map _ _)
    _ = ((types.flatMap (·.rows .unit)).map (·.statements)).sum :=
        (statements_flatMap fun t ht => t.statements_rows .unit fun e he =>
          balanced e (List.mem_append_right _ (List.mem_flatMap.2 ⟨t, ht, he⟩))).symm
    _ = ((n.rows []).map (·.statements)).sum := (rows.map _).sum_eq
    _ = _ := by
      rw [Node.rows, hcounts.sum, variables', ← n.nodes_occurrences [], List.countP_map]
      simp [Lineage.isVariable, Function.comp_def]

/-! ## A class and an annotation type -/

def plainValue (line column : Int) : Node :=
  .bare (.ofLines line column line column) (.plainExpression [])

/-- A resource, a statement and a variable: `try (r = e) { return; } int z = 2, y;`. -/
def returningBody : Node :=
  .bare (.ofLines 3 10 5 1) (.block
    [.bare (.ofLines 3 12 3 35) (.tryStatement
      [.bare (.ofLines 3 17 3 21) (.resource "r" (some (plainValue 3 21)))]
      (.bare (.ofLines 3 24 3 34) (.block
        [.bare (.ofLines 3 26 3 32) (.returnStatement none)])) [] none),
    .bare (.ofLines 4 1 4 15) (.localDeclaration "int"
      [.bare (.ofLines 4 5 4 9) (.variableDeclarator "z" (some (plainValue 4 9))),
        .bare (.ofLines 4 12 4 12) (.variableDeclarator "y" none)])])

def returningClass : Node :=
  .bare (.ofLines 1 1 6 1) (.typeDeclaration .class "A" []
    [.bare (.ofLines 2 1 2 10) (.fieldDeclaration "int"
      [.bare (.ofLines 2 5 2 9) (.variableDeclarator "x" (some (plainValue 2 9)))] []),
      .bare (.ofLines 3 1 5 1) (.callable (.method "void") "f" [] (some returningBody) [])])

def defaultType : Node :=
  .bare (.ofLines 7 1 9 1) (.typeDeclaration .annotationType "B" []
    [.bare (.ofLines 8 1 8 20) (.annotationMember "v" "int" (some (plainValue 8 18)) [])])

def returningUnit : Node :=
  .bare (.ofLines 1 1 9 1) (.compilationUnit none [] [returningClass, defaultType] none)

theorem returningUnit_wellFormed :
    UnitParts.WellFormed ⟨none, [], [returningClass, defaultType], none⟩ where
  package := fun _ h => absurd h (Option.not_mem_none _)
  imports := List.forall_mem_nil _
  types t ht := by
    rcases List.mem_pair.1 ht with rfl | rfl <;> rfl

theorem returningUnit_serves : returningUnit.Serves .unit := by
  repeat' first
    | exact List.forall_mem_nil _
    | refine .mk rfl ?_
    | refine List.forall_mem_cons.2 ⟨?_, ?_⟩

theorem exists_returns_returningUnit :
    ∃ u ledger, (collectOrdinaryUnit returningUnit "A").Returns .empty u ledger := by
  have names : returningUnit.walk.all (fun n => n.construct.elementName? != some "") = true := by
    cbv
  simp only [List.all_eq_true, bne_iff_ne] at names
  have fails := collectOrdinaryUnit_failsOnly returningUnit_serves rfl (by decide : "A" ≠ "")
  cases run : (collectOrdinaryUnit returningUnit "A").run.run .empty with
  | mk result ledger =>
    cases result with
    | ok u => exact ⟨u, ledger, run⟩
    | error e =>
      obtain ⟨-, n, hn, empty⟩ := fails _ _ _ run
      exact absurd empty (names n hn)

theorem collectOrdinaryUnit_returningUnit : ∃ u ledger,
    (collectOrdinaryUnit returningUnit "A").Returns .empty u ledger ∧
    ((returningUnit.occurrences []).filter (·.isCounted)).mapM (·.node.statementCount) =
      .ok [0, 2, 0, 1, 1] ∧
    List.Forall₂ (fun o k => o.node.construct.Makes k)
      ((returningUnit.occurrences []).filter (·.isCounted)) [0, 2, 0, 1, 1] ∧
    (u.unit.map CommentCounts.ofComments).total.statements = 6 := by
  obtain ⟨u, ledger, h⟩ := exists_returns_returningUnit
  obtain ⟨counts, made, each, total⟩ :=
    collectOrdinaryUnit_statements rfl returningUnit_wellFormed h
  have known : ((returningUnit.occurrences []).filter (·.isCounted)).mapM
      (·.node.statementCount) = .ok [0, 2, 0, 1, 1] := by cbv
  obtain rfl := Except.ok.inj (known.symm.trans made)
  exact ⟨u, ledger, h, known, each, total.trans (by cbv)⟩

end JavaCensus
