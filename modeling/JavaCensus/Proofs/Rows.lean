import JavaCensus.Collect.Classify
import JavaCensus.Proofs.Collecting
import JavaCensus.Proofs.Elements
import JavaCensus.Proofs.Lineage

/-!
# Rows

What a tree says, row by row: each declaration with what it belongs to, and each counted statement
with its method. The same rows can be read off a metrics tree whose elements remember where they
come from, so that the two trees can be compared.
-/
namespace JavaCensus

/-- What is said of a declaration itself. -/
inductive Profile where
  | type (name : Except Error String) (kind : Except Error TypeKind)
  | method (name : Except Error String) (kind : Except Error MethodKind)
  | field (name : Except Error String) (kind : Except Error FieldKind)
      (statements : Except Error Int)

inductive Row where
  | declaration (place : Place) (holder : Holder) (profile : Profile)
  | statement (place method : Place) (count : Except Error Nat)

namespace Row

def place : Row → Place
  | declaration place _ _ | statement place _ _ => place

def isDeclaration : Row → Bool
  | declaration .. => true
  | statement .. => false

end Row

/-! ## Rows of syntax trees -/

/-- The three sorts of elements. -/
inductive ElementSort where
  | type
  | method
  | field
  deriving DecidableEq, Repr

namespace Construct

variable {α : Type}

/-- The sort of element that a construct stands for by itself. -/
def elementSort? : Construct α → Option ElementSort
  | .typeDeclaration .. | .enumDeclaration .. | .enumConstant _ _ (some _)
  | .objectCreation _ _ (some _) => some .type
  | .callable (.method _) .. | .callable .constructor .. | .initializerBlock .. => some .method
  | .enumConstant _ _ none | .annotationMember .. => some .field
  | _ => none

def isInitialized : Construct α → Bool
  | .variableDeclarator _ initializer | .resource _ initializer => initializer.isSome
  | _ => false

end Construct

/-- An initializer is one statement, however much code it holds. -/
def Node.initializerCount (n : Node) : Except Error Int :=
  match n.construct.initializer? with
  | none => .error (.mishap .absentPart)
  | some initializer => .ok (if initializer.isSome then 1 else 0)

namespace Occurrence

def parent (o : Occurrence) : Node :=
  match o.above with
  | [] => o.node
  | s :: _ => s.parent

def grandparent (o : Occurrence) : Node :=
  match o.above with
  | _ :: s :: _ => s.parent
  | _ => o.parent

/-- What a node declares. The variables of a field declaration are fields, whatever they are. -/
def profile? (o : Occurrence) : Option Profile :=
  if o.above.isVariable then
    some (.field o.node.requiredName (o.parent.fieldKind o.grandparent) o.node.initializerCount)
  else
    match o.node.construct.elementSort? with
    | none => none
    | some .type => some (.type o.node.typeName o.node.typeKind)
    | some .method => some (.method o.node.methodName (o.node.methodKind o.parent))
    | some .field => some (.field o.node.requiredName (o.node.fieldKind o.parent)
        (.ok (if o.node.construct.hasDefault then 1 else 0)))

def declaration? (o : Occurrence) : Option Row :=
  o.profile?.map (.declaration o.above.place o.above.holder)

/-- A statement or switch entry that is part of a method. -/
def statement? (o : Occurrence) : Option Row :=
  if o.node.construct.codeRole = .counted then
    o.above.method?.map fun method => .statement o.above.place method o.node.statementCount
  else none

def rows (o : Occurrence) : List Row :=
  o.declaration?.toList ++ o.statement?.toList

/-- A declaration is no statement, so it makes the one row. -/
theorem rows_of_profile? {o : Occurrence} {profile : Profile} (h : o.profile? = some profile)
    (role : o.node.construct.codeRole ≠ .counted) :
    o.rows = [.declaration o.above.place o.above.holder profile] := by
  rw [rows, declaration?, h, statement?, if_neg role]
  rfl

/-- What neither declares nor counts makes no row. -/
theorem rows_eq_nil {o : Occurrence} (entered : o.above.isVariable = false)
    (sort : o.node.construct.elementSort? = none) (role : o.node.construct.codeRole ≠ .counted) :
    o.rows = [] := by
  simp [rows, declaration?, profile?, statement?, entered, sort, role]

end Occurrence

/-- The rows of a node and of all nodes below it. -/
def Node.rows (n : Node) (above : Lineage) : List Row :=
  (n.occurrences above).flatMap (·.rows)

theorem Node.rows_eq (n : Node) (above : Lineage) : n.rows above =
    Occurrence.rows ⟨n, above⟩ ++
      n.children.zipIdx.flatMap fun c => c.1.rows (⟨n, c.2⟩ :: above) := by
  rw [rows, occurrences_eq, List.flatMap_cons, List.flatMap_assoc]
  rfl

/-- The rows of a type, those of the arguments of an object creation left out. -/
def Node.typeRows (n : Node) (above : Lineage) : List Row :=
  Occurrence.rows ⟨n, above⟩ ++ (n.children.zipIdx.drop n.creationArguments.length).flatMap
    fun c => c.1.rows (⟨n, c.2⟩ :: above)

theorem Node.creationArguments_prefix (n : Node) : n.creationArguments <+: n.children := by
  unfold creationArguments
  split
  · rename_i hn
    rw [children, hn]
    exact List.prefix_append ..
  · exact List.nil_prefix

/-- The rows of an object creation are those of its arguments and those of the class that it
declares. -/
theorem Node.rows_perm (n : Node) (above : Lineage) :
    ((n.creationArguments.zipIdx.flatMap fun c => c.1.rows (⟨n, c.2⟩ :: above)) ++
      n.typeRows above).Perm (n.rows above) := by
  obtain ⟨rest, children⟩ := n.creationArguments_prefix
  rw [rows_eq, typeRows, ← children, List.zipIdx_append, List.drop_left' List.length_zipIdx,
    List.flatMap_append]
  exact List.perm_append_comm_assoc ..

theorem Node.typeRows_eq_rows {n : Node} (h : n.creationArguments = []) (above : Lineage) :
    n.typeRows above = n.rows above := by
  rw [typeRows, rows_eq, h, List.length_nil, List.drop_zero]

/-! ## Rows of metrics trees -/

/-- Where an element comes from, and the statements that a method counts, each with its count. -/
structure Origin where
  place : Place
  counted : List (Place × Nat)

/-- The rows of the statements that are counted for a method; outside of methods there are none. -/
def countRows : Option Place → List (Place × Nat) → List Row
  | none, _ => []
  | some method, counted => counted.map fun c => .statement c.1 method (.ok c.2)

def FieldElement.row (h : Holder) (f : FieldElement Origin) : Row :=
  .declaration f.comments.place h (.field (.ok f.name.text) (.ok f.kind) (.ok f.statements))

mutual

def TypeElement.rows (h : Holder) : TypeElement Origin → List Row
  | .mk name kind origin fields methods innerTypes =>
    .declaration origin.place h (.type (.ok name.text) (.ok kind)) ::
      (fields.map (FieldElement.row (.type origin.place)) ++
        MethodElement.allRows (.type origin.place) methods ++
        TypeElement.allRows (.type origin.place) innerTypes)

def TypeElement.allRows (h : Holder) : List (TypeElement Origin) → List Row
  | [] => []
  | t :: ts => t.rows h ++ TypeElement.allRows h ts

def MethodElement.rows (h : Holder) : MethodElement Origin → List Row
  | .mk name kind _ origin localTypes =>
    .declaration origin.place h (.method (.ok name.text) (.ok kind)) ::
      (countRows (some origin.place) origin.counted ++
        TypeElement.allRows (.method origin.place) localTypes)

def MethodElement.allRows (h : Holder) : List (MethodElement Origin) → List Row
  | [] => []
  | m :: ms => m.rows h ++ MethodElement.allRows h ms

end

theorem TypeElement.allRows_eq (h : Holder) (ts : List (TypeElement Origin)) :
    TypeElement.allRows h ts = ts.flatMap (·.rows h) := by
  induction ts with
  | nil => rfl
  | cons t ts ih => rw [TypeElement.allRows, ih, List.flatMap_cons]

theorem MethodElement.allRows_eq (h : Holder) (ms : List (MethodElement Origin)) :
    MethodElement.allRows h ms = ms.flatMap (·.rows h) := by
  induction ms with
  | nil => rfl
  | cons m ms ih => rw [MethodElement.allRows, ih, List.flatMap_cons]

theorem TypeElement.rows_eq (t : TypeElement Origin) (h : Holder) : t.rows h =
    .declaration t.comments.place h (.type (.ok t.name.text) (.ok t.kind)) ::
      (t.fields.map (FieldElement.row (.type t.comments.place)) ++
        t.methods.flatMap (·.rows (.type t.comments.place)) ++
        t.innerTypes.flatMap (·.rows (.type t.comments.place))) := by
  cases t
  rw [TypeElement.rows, MethodElement.allRows_eq, TypeElement.allRows_eq]
  rfl

theorem MethodElement.rows_eq (m : MethodElement Origin) (h : Holder) : m.rows h =
    .declaration m.comments.place h (.method (.ok m.name.text) (.ok m.kind)) ::
      (countRows (some m.comments.place) m.comments.counted ++
        m.localTypes.flatMap (·.rows (.method m.comments.place))) := by
  cases m
  rw [MethodElement.rows, TypeElement.allRows_eq]
  rfl

/-- A method counts as many statements as it remembers. -/
def Element.Balanced : Element Origin → Prop
  | .method m => m.statements = ((m.comments.counted.map (·.2)).sum : Nat)
  | _ => True

/-! ## Parts that stand for rows -/

/-- What is left of the metrics when comments and origins are forgotten. -/
def forget {β : Type} (_ : β) : Unit := ()

/-- The parts are what the rows say: their elements can be given origins such that they have these
rows. -/
def MemberParts.StandFor (parts : MemberParts) (h : Holder) (rows : List Row) : Prop :=
  ∃ (fields : List (FieldElement Origin)) (methods : List (MethodElement Origin))
    (types : List (TypeElement Origin)),
    fields.map (·.map forget) = parts.fields.map (·.map forget) ∧
    methods.map (·.map forget) = parts.methods.map (·.map forget) ∧
    types.map (·.map forget) = parts.innerTypes.map (·.map forget) ∧
    (∀ e ∈ methods.flatMap (·.elements) ++ types.flatMap (·.elements), e.Balanced) ∧
    (fields.map (FieldElement.row h) ++ methods.flatMap (·.rows h) ++
      types.flatMap (·.rows h)).Perm rows

/-- The types alone, as parts. -/
def MemberParts.ofTypes (types : List TypeOf) : MemberParts := ⟨[], [], types⟩

namespace MemberParts.StandFor

variable {a b parts : MemberParts} {h : Holder} {rows others : List Row}

theorem nil (h : Holder) : StandFor ⟨[], [], []⟩ h [] :=
  ⟨[], [], [], rfl, rfl, rfl, List.forall_mem_nil _, .refl _⟩

theorem perm (stand : parts.StandFor h rows) (p : rows.Perm others) : parts.StandFor h others := by
  obtain ⟨fields, methods, types, hf, hm, ht, balanced, same⟩ := stand
  exact ⟨fields, methods, types, hf, hm, ht, balanced, same.trans p⟩

theorem append (ha : a.StandFor h rows) (hb : b.StandFor h others) :
    (a.append b).StandFor h (rows ++ others) := by
  obtain ⟨fields, methods, types, hf, hm, ht, balanced, same⟩ := ha
  obtain ⟨fields', methods', types', hf', hm', ht', balanced', same'⟩ := hb
  refine ⟨fields ++ fields', methods ++ methods', types ++ types', ?_, ?_, ?_, fun e he => ?_, ?_⟩
  · rw [List.map_append, hf, hf', ← List.map_append]
    rfl
  · rw [List.map_append, hm, hm', ← List.map_append]
    rfl
  · rw [List.map_append, ht, ht', ← List.map_append]
    rfl
  · have : e ∈ methods.flatMap (·.elements) ++ types.flatMap (·.elements) ∨
        e ∈ methods'.flatMap (·.elements) ++ types'.flatMap (·.elements) := by
      simp only [List.flatMap_append, List.mem_append] at he ⊢
      tauto
    exact this.elim (balanced e) (balanced' e)
  · refine List.Perm.trans ?_ (same.append same')
    classical
    rw [List.perm_iff_count]
    intro row
    simp only [List.map_append, List.flatMap_append, List.count_append]
    omega

/-- If each step of a list gives what its rows say, the list does. -/
theorem of_each {α β : Type} {f : α → Attribution β} (partsOf : β → MemberParts)
    {rowsOf : α → List Row} {xs : List α} {ys : List β} {l m : Ledger}
    (step : ∀ x ∈ xs, ∀ l y m, (f x).Returns l y m → (partsOf y).StandFor h (rowsOf x))
    (hys : (Attribution.each xs fun a _ => f a).Returns l ys m) :
    (MemberParts.gather (ys.map partsOf)).StandFor h (xs.flatMap rowsOf) := by
  induction xs generalizing l ys with
  | nil =>
    obtain ⟨rfl, -⟩ := Attribution.returns_each_nil.1 hys
    exact .nil h
  | cons x xs ih =>
    obtain ⟨y, k, rest, hy, hrest, rfl⟩ := Attribution.returns_each_cons.1 hys
    exact (step x (List.mem_cons_self ..) l y k hy).append
      (ih (fun z hz => step z (List.mem_cons_of_mem _ hz)) hrest)

theorem ofField {f : FieldOf} {place : Place} :
    StandFor ⟨[f], [], []⟩ h
      [.declaration place h (.field (.ok f.name.text) (.ok f.kind) (.ok f.statements))] :=
  ⟨[f.map fun _ => ⟨place, []⟩], [], [], rfl, rfl, rfl, List.forall_mem_nil _, .refl _⟩

/-- What is forgotten of comments is not what fields stand for. -/
theorem of_forget_eq {fields : List FieldOf}
    (same : fields.map (·.map forget) = parts.fields.map (·.map forget))
    (stand : parts.StandFor h rows) :
    StandFor ⟨fields, parts.methods, parts.innerTypes⟩ h rows := by
  obtain ⟨labelled, methods, types, hf, hm, ht, balanced, perm⟩ := stand
  exact ⟨labelled, methods, types, hf.trans same.symm, hm, ht, balanced, perm⟩

/-- A method stands for its declaration, its statements and the types declared in it. -/
theorem ofMethod {name : ElementName} {kind : MethodKind} {place : Place} {comments : List Comment}
    {counted : List (Place × Nat)} {statements : Nat} {types : List TypeOf}
    (sum : (counted.map (·.2)).sum = statements)
    (stand : (MemberParts.ofTypes types).StandFor (.method place) rows) :
    StandFor ⟨[], [.mk name kind statements comments types], []⟩ h
      (.declaration place h (.method (.ok name.text) (.ok kind)) ::
        (countRows (some place) counted ++ rows)) := by
  obtain ⟨fields, methods, labelled, hf, hm, ht, balanced, same⟩ := stand
  obtain rfl := List.map_eq_nil_iff.1 hf
  obtain rfl := List.map_eq_nil_iff.1 hm
  refine ⟨[], [.mk name kind statements ⟨place, counted⟩ labelled], [], rfl, ?_, rfl, ?_, ?_⟩
  · simp only [List.map_cons, List.map_nil, MethodElement.map, TypeElement.mapAll_eq, ht]
    rfl
  · intro e he
    rw [List.flatMap_singleton, MethodElement.elements_eq, List.flatMap_nil, List.append_nil,
      List.mem_cons] at he
    rcases he with rfl | he
    · exact congrArg Nat.cast sum.symm
    · exact balanced e (List.mem_append_right _ he)
  · simp only [List.map_nil, List.nil_append, List.flatMap_nil, List.append_nil,
      List.flatMap_singleton] at same ⊢
    rw [MethodElement.rows_eq]
    exact (same.append_left _).cons _

/-- A type stands for its declaration and for what its parts stand for. -/
theorem ofType {name : ElementName} {kind : TypeKind} {place : Place} {comments : List Comment}
    (stand : parts.StandFor (.type place) rows) :
    (MemberParts.ofTypes [.mk name kind comments parts.fields parts.methods
      parts.innerTypes]).StandFor h
        (.declaration place h (.type (.ok name.text) (.ok kind)) :: rows) := by
  obtain ⟨fields, methods, types, hf, hm, ht, balanced, same⟩ := stand
  refine ⟨[], [], [.mk name kind ⟨place, []⟩ fields methods types], rfl, rfl, ?_, ?_, ?_⟩
  · simp only [MemberParts.ofTypes, List.map_cons, List.map_nil, TypeElement.map,
      MethodElement.mapAll_eq, TypeElement.mapAll_eq, hf, hm, ht]
  · intro e he
    rw [List.flatMap_nil, List.nil_append, List.flatMap_singleton, TypeElement.elements_eq,
      List.append_assoc, List.cons_append, List.mem_cons, List.mem_append] at he
    rcases he with rfl | he | he
    · trivial
    · obtain ⟨f, -, rfl⟩ := List.mem_map.1 he
      trivial
    · exact balanced e he
  · simp only [List.map_nil, List.nil_append, List.flatMap_nil, List.flatMap_singleton] at same ⊢
    rw [TypeElement.rows_eq]
    exact same.cons _

end MemberParts.StandFor

end JavaCensus
