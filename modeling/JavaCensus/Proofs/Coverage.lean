import JavaCensus.Proofs.Equations
import JavaCensus.Proofs.Origins
import JavaCensus.Proofs.Reader

/-!
# Where code is looked for

Lambdas, switches and object creations with a class body hold code. Each tree is read by way of some
of the trees below it: those are its sources. Whether the reader finds all the code below a tree
depends only on whether the sources cover it.
-/
namespace JavaCensus

/-- Whether the construct is one that code-holding trees are read as. -/
def Construct.holdsCode {α : Type} : Construct α → Bool
  | .lambda _ | .switchStatement .. | .switchExpression .. | .objectCreation _ _ (some _) => true
  | _ => false

/-- The code-holding nodes of a tree, in the order of a walk. -/
def Node.codeNodes (n : Node) : List Node :=
  n.walk.filter (·.construct.holdsCode)

theorem Node.codeNodes_eq (n : Node) :
    n.codeNodes = (if n.construct.holdsCode then [n] else []) ++ n.children.flatMap codeNodes := by
  rw [codeNodes, walk_eq, List.filter_cons, List.filter_flatMap]
  split <;> rfl

namespace ParseTree

/-- The trees that hold code, at or below a tree. -/
def code (t : ParseTree) : List ParseTree :=
  t.walk.filter (·.holdsCode)

theorem code_eq (t : ParseTree) :
    t.code = (if t.holdsCode then [t] else []) ++ t.children.flatMap code := by
  rw [code, walk_eq, List.filter_cons, List.filter_flatMap]
  split <;> rfl

def annotates (t : ParseTree) : Bool :=
  t.type == "annotation" || t.type == "marker_annotation"

mutual

/-- The tree and all trees below it by way of named children, without those in annotations. -/
def reached : ParseTree → List ParseTree
  | ⟨type, named, missing, start, stop, field, children⟩ =>
    ⟨type, named, missing, start, stop, field, children⟩ :: reachedAll children

def reachedAll : List ParseTree → List ParseTree
  | [] => []
  | t :: ts => if t.named && !t.annotates then reached t ++ reachedAll ts else reachedAll ts

end

/-- The named children that are no annotations. -/
def operands (t : ParseTree) : List ParseTree :=
  t.namedChildren.filter fun c => !c.annotates

theorem reachedAll_eq (ts : List ParseTree) :
    reachedAll ts = ((ts.filter (·.named)).filter fun c => !c.annotates).flatMap reached := by
  induction ts with
  | nil => rfl
  | cons t ts ih =>
    rw [reachedAll, List.filter_filter, List.filter_cons, Bool.and_comm, ih, List.filter_filter]
    split <;> rfl

theorem reached_eq (t : ParseTree) : t.reached = t :: t.operands.flatMap reached := by
  cases t
  rw [reached, reachedAll_eq]
  rfl

/-- The trees that hold code, outside annotations. -/
def held (t : ParseTree) : List ParseTree :=
  t.reached.filter (·.holdsCode)

theorem held_eq (t : ParseTree) :
    t.held = (if t.holdsCode then [t] else []) ++ t.operands.flatMap held := by
  rw [held, reached_eq, List.filter_cons, List.filter_flatMap]
  split <;> rfl

/-! ## Where the reader looks -/

def fieldTree (t : ParseTree) (name : String) : List ParseTree :=
  (t.field? name).toList

/-- The parts of the switch body that a switch is read from: for each group or rule, its labels and
then its statements. Statements without a label are not kept. -/
def partsOfEntries (t : ParseTree) : List ParseTree :=
  let labels := t.namedChildren.filter (·.type == "switch_label")
  match t.type with
  | "switch_block_statement_group" =>
    if labels.isEmpty then []
    else labels.flatMap (fun label => label.parts.map (·.tree)) ++ t.entryTrees
  | "switch_rule" =>
    labels.head?.toList.flatMap (fun label => label.parts.map (·.tree)) ++ t.entryTrees
  | _ => []

/-- The statements of the block that is the body of a method, a catch clause and so on. -/
def bodyStatements (t : ParseTree) : List ParseTree :=
  (t.fieldTree "body").flatMap blockTrees

/-- The statements of the first block among the children. -/
def blockStatements (t : ParseTree) : List ParseTree :=
  (t.namedChildren.find? (·.type == "block")).toList.flatMap blockTrees

/-- The values of the variables that a declaration is read from. -/
def variableValues (t : ParseTree) : List ParseTree :=
  ((t.fieldsBelow "declarator").map (·.tree)).flatMap (·.fieldTree "value")

/-- What a constant of an enum is read from. -/
def constantTrees (t : ParseTree) : List ParseTree :=
  t.argumentTrees ++ t.memberTrees

def enumBodyTrees (t : ParseTree) (type : String) : List ParseTree :=
  (((t.field? "body").map (·.namedChildren)).getD []).filter (·.type == type)

/-- The trees that the parts of a construct are read from, as expressions, statements or members. -/
def sources (t : ParseTree) : List ParseTree :=
  match t.type with
  | "lambda_expression" =>
    (t.fieldTree "body").flatMap fun b => if b.type == "block" then b.blockTrees else [b]
  | "switch_expression" =>
    t.fieldTree "condition" ++
      (t.fieldTree "body").flatMap fun b => b.namedChildren.flatMap partsOfEntries
  | "object_creation_expression" =>
    match t.namedChildren.find? (·.type == "class_body") with
    | some b => t.argumentTrees ++ b.parts.map (·.tree)
    | none => t.namedChildren
  | "block" => t.blockTrees
  | ";" | "break_statement" | "continue_statement" => []
  | "local_variable_declaration" | "field_declaration" | "constant_declaration" => t.variableValues
  | "labeled_statement" => t.children.getLast?.toList
  | "if_statement" =>
    t.fieldTree "condition" ++ t.fieldTree "consequence" ++ t.fieldTree "alternative"
  | "while_statement" => t.fieldTree "condition" ++ t.fieldTree "body"
  | "do_statement" => t.fieldTree "body" ++ t.fieldTree "condition"
  | "for_statement" =>
    (t.fieldsBelow "init").map (·.tree) ++ t.fieldTree "condition" ++
      (t.fieldsBelow "update").map (·.tree) ++ t.fieldTree "body"
  | "enhanced_for_statement" => t.fieldTree "value" ++ t.fieldTree "body"
  | "synchronized_statement" => (t.parts.map (·.tree)).head?.toList ++ t.bodyStatements
  | "try_statement" | "try_with_resources_statement" =>
    t.resourceTrees.flatMap (·.fieldTree "value") ++ t.bodyStatements ++
      (t.namedChildren.filter (·.type == "catch_clause")).flatMap bodyStatements ++
      (t.namedChildren.filter (·.type == "finally_clause")).getLast?.toList.flatMap
        blockStatements
  | "expression_statement" | "yield_statement" | "throw_statement" | "return_statement" =>
    (t.parts.map (·.tree)).head?.toList
  | "assert_statement" => (t.parts.map (·.tree)).take 2
  | "explicit_constructor_invocation" => t.argumentTrees
  | "class_declaration" | "interface_declaration" | "annotation_type_declaration"
  | "record_declaration" => t.memberTrees
  | "enum_declaration" =>
    (t.enumBodyTrees "enum_constant").flatMap constantTrees ++
      (t.enumBodyTrees "enum_body_declarations").flatMap fun c => c.parts.map (·.tree)
  | "method_declaration" | "constructor_declaration" | "compact_constructor_declaration" =>
    t.bodyStatements
  | "static_initializer" => t.blockStatements
  | "annotation_type_element_declaration" => (t.defaultValue?.map (·.tree)).toList
  | _ => t.namedChildren

/-- The reader looks wherever code stands below the tree, and nowhere twice. -/
structure Covered (t : ParseTree) : Prop where
  all : (t.operands.flatMap held).Subperm (t.sources.flatMap held)
  once : (t.sources.flatMap code).Subperm (t.children.flatMap code)

/-- The types of the trees that are read by their parts. All others are plain expressions. -/
def partwise : List String :=
  ["lambda_expression", "switch_expression", "object_creation_expression", "block", ";",
    "break_statement", "continue_statement", "local_variable_declaration", "field_declaration",
    "constant_declaration", "labeled_statement", "if_statement", "while_statement", "do_statement",
    "for_statement", "enhanced_for_statement", "synchronized_statement", "try_statement",
    "try_with_resources_statement", "expression_statement", "yield_statement", "throw_statement",
    "return_statement", "assert_statement", "explicit_constructor_invocation", "class_declaration",
    "interface_declaration", "annotation_type_declaration", "record_declaration",
    "enum_declaration", "method_declaration", "constructor_declaration",
    "compact_constructor_declaration", "static_initializer", "annotation_type_element_declaration"]

theorem sources_of_type {t : ParseTree} (plain : t.type ∉ partwise) :
    t.sources = t.namedChildren := by
  unfold sources
  split <;> first | rfl | exact absurd (by simp [partwise, *]) plain

theorem covered_of_type {t : ParseTree} (plain : t.type ∉ partwise) : t.Covered where
  all := by
    rw [sources_of_type plain]
    exact (List.filter_sublist.flatMap held).subperm
  once := by
    rw [sources_of_type plain]
    exact (List.filter_sublist.flatMap code).subperm

end ParseTree

/-! ## What is kept -/

namespace Reading

open ParseTree

variable {r : Reading}

/-- The node is what the code-holding tree is read as. -/
structure ReadAs (r : Reading) (t : ParseTree) (n : Node) : Prop where
  span : n.span = r.source.span t
  form : match n.construct with
    | .lambda _ => t.type = "lambda_expression"
    | .switchStatement .. | .switchExpression .. => t.type = "switch_expression"
    | .objectCreation _ _ (some _) => t.type = "object_creation_expression"
    | _ => False

/-- Every code-holding node of a list comes from one code-holding tree of another, no tree is used
twice, and none outside annotations is left out. -/
def Keeps (r : Reading) (ts : List ParseTree) (ns : List Node) : Prop :=
  ∃ trees : List ParseTree, (ts.flatMap held).Subperm trees ∧ trees.Subperm (ts.flatMap code) ∧
    List.Forall₂ r.ReadAs trees (ns.flatMap Node.codeNodes)

namespace Keeps

theorem nil : r.Keeps [] [] :=
  ⟨[], .refl _, .refl _, .nil⟩

theorem append {ts us : List ParseTree} {ns ms : List Node} (h : r.Keeps ts ns)
    (k : r.Keeps us ms) : r.Keeps (ts ++ us) (ns ++ ms) := by
  obtain ⟨as, held, code, reads⟩ := h
  obtain ⟨bs, held', code', reads'⟩ := k
  refine ⟨as ++ bs, ?_, ?_, ?_⟩
  · rw [List.flatMap_append]
    exact held.append held'
  · rw [List.flatMap_append]
    exact code.append code'
  · rw [List.flatMap_append]
    exact List.rel_append reads reads'

/-- A node that holds no code itself keeps what its parts keep. -/
theorem node {ts : List ParseTree} {span : Span} {x : Construct Node}
    (parts : r.Keeps ts x.children) (plain : x.holdsCode = false) :
    r.Keeps ts [.bare span x] := by
  have nodes : [Node.bare span x].flatMap Node.codeNodes = x.children.flatMap Node.codeNodes := by
    rw [List.flatMap_singleton, Node.codeNodes_eq]
    simp [Node.bare, plain, Node.children]
  unfold Keeps
  rw [nodes]
  exact parts

/-- What is read one by one keeps what each of the readings keeps. -/
theorem flatMap {α : Type} {f : ParseTree → Read α} {g : ParseTree → List ParseTree}
    {n : α → List Node} {ts : List ParseTree} {as : List α} (h : ts.mapM f = .ok as)
    (each : ∀ t ∈ ts, ∀ a, f t = .ok a → r.Keeps (g t) (n a)) :
    r.Keeps (ts.flatMap g) (as.flatMap n) := by
  induction ts generalizing as with
  | nil =>
    obtain rfl := pure_eq_ok.1 h
    exact nil
  | cons t ts ih =>
    rw [List.mapM_cons] at h
    obtain ⟨a, ha, h⟩ := bind_eq_ok.1 h
    obtain ⟨rest, hrest, h⟩ := bind_eq_ok.1 h
    obtain rfl := pure_eq_ok.1 h
    exact (each t (List.mem_cons_self ..) a ha).append
      (ih hrest fun u hu => each u (List.mem_cons_of_mem _ hu))

theorem mapM {f : ParseTree → Read Node} {g : ParseTree → List ParseTree} {ts : List ParseTree}
    {ns : List Node} (h : ts.mapM f = .ok ns)
    (each : ∀ t ∈ ts, ∀ n, f t = .ok n → r.Keeps (g t) [n]) : r.Keeps (ts.flatMap g) ns := by
  have keeps := flatMap (n := fun m => [m]) h each
  rwa [List.flatMap_singleton'] at keeps

theorem each {f : ParseTree → Read Node} {ts : List ParseTree} {ns : List Node}
    (h : ts.mapM f = .ok ns) (each : ∀ t ∈ ts, ∀ n, f t = .ok n → r.Keeps [t] [n]) :
    r.Keeps ts ns := by
  have keeps := mapM (g := fun t => [t]) h each
  rwa [List.flatMap_singleton'] at keeps

theorem pairs {g : ParseTree → List ParseTree} {pairs : List (ParseTree × Node)}
    (each : ∀ q ∈ pairs, r.Keeps (g q.1) [q.2]) :
    r.Keeps ((pairs.map (·.1)).flatMap g) (pairs.map (·.2)) := by
  induction pairs with
  | nil => exact .nil
  | cons q pairs ih =>
    exact (each q (List.mem_cons_self ..)).append
      (ih fun q hq => each q (List.mem_cons_of_mem _ hq))

theorem last {g : ParseTree → List ParseTree} {pairs : List (ParseTree × Node)}
    (each : ∀ q ∈ pairs, r.Keeps (g q.1) [q.2]) :
    r.Keeps ((pairs.map (·.1)).getLast?.toList.flatMap g) (pairs.map (·.2)).getLast?.toList := by
  rw [List.getLast?_map, List.getLast?_map]
  cases hq : pairs.getLast? with
  | none => exact .nil
  | some q =>
    rw [Option.map_some, Option.toList_some, List.flatMap_singleton]
    exact each q (List.mem_of_getLast? hq)

theorem of_sources {ts us : List ParseTree} {ns : List Node} (h : r.Keeps us ns)
    (all : (ts.flatMap held).Subperm (us.flatMap held))
    (once : (us.flatMap code).Subperm (ts.flatMap code)) : r.Keeps ts ns := by
  obtain ⟨trees, held, code, reads⟩ := h
  exact ⟨trees, all.trans held, code.trans once, reads⟩

/-- What a tree without code of its own keeps is what is kept of its sources. -/
theorem of_covered {t : ParseTree} {n : Node} (h : r.Keeps t.sources [n]) (covered : t.Covered)
    (form : t.holdsCode = false) : r.Keeps [t] [n] := by
  refine h.of_sources ?_ ?_
  · rw [List.flatMap_singleton, held_eq, form]
    exact covered.all
  · rw [List.flatMap_singleton, code_eq, form]
    exact covered.once

/-- A code-holding tree is kept as the node that it is read as, and its sources within that. -/
theorem of_readAs {t : ParseTree} {n : Node} (h : r.Keeps t.sources n.children)
    (covered : t.Covered) (form : t.holdsCode = true) (own : r.ReadAs t n)
    (holds : n.construct.holdsCode = true) : r.Keeps [t] [n] := by
  obtain ⟨trees, held, code, reads⟩ := h
  refine ⟨t :: trees, ?_, ?_, ?_⟩
  · rw [List.flatMap_singleton, held_eq, form]
    exact (List.subperm_cons t).2 (covered.all.trans held)
  · rw [List.flatMap_singleton, code_eq, form]
    exact (List.subperm_cons t).2 (code.trans covered.once)
  · rw [List.flatMap_singleton, Node.codeNodes_eq, holds]
    exact .cons own reads

end Keeps

/-! ## What is kept of the trees below -/

section Functions

variable {t : ParseTree} {n : Node}

/-- Whatever the trees below are read as keeps their code. -/
structure KeepsBelow (r : Reading) (t : ParseTree) : Prop where
  expression : ∀ {u}, t.Beneath u → ∀ n, r.expression u = .ok n → r.Keeps [u] [n]
  statement : ∀ {u}, t.Beneath u → ∀ n, r.statement u = .ok n → r.Keeps [u] [n]
  member : ∀ {u}, t.Beneath u → ∀ components n, r.member components u = .ok n → r.Keeps [u] [n]

namespace KeepsBelow

theorem beneath (h : r.KeepsBelow t) {c : ParseTree} (hc : t.Beneath c) : r.KeepsBelow c := by
  obtain ⟨d, hd, hc⟩ := hc
  exact
    { expression := fun hu => h.expression ⟨d, hd, mem_walk_trans hc hu.mem_walk⟩
      statement := fun hu => h.statement ⟨d, hd, mem_walk_trans hc hu.mem_walk⟩
      member := fun hu => h.member ⟨d, hd, mem_walk_trans hc hu.mem_walk⟩ }

theorem child (h : r.KeepsBelow t) {c : ParseTree} (hc : c ∈ t.children) : r.KeepsBelow c :=
  h.beneath (beneath_of_mem_children hc)

theorem expressions (h : r.KeepsBelow t) {us : List ParseTree} {ns : List Node}
    (below : ∀ u ∈ us, t.Beneath u) (read : us.mapM r.expression = .ok ns) : r.Keeps us ns :=
  .each read fun u hu => h.expression (below u hu)

theorem statements (h : r.KeepsBelow t) {us : List ParseTree} {ns : List Node}
    (below : ∀ u ∈ us, t.Beneath u) (read : us.mapM r.statement = .ok ns) : r.Keeps us ns :=
  .each read fun u hu => h.statement (below u hu)

theorem members (h : r.KeepsBelow t) {components : List Parameter} {us : List ParseTree}
    {ns : List Node} (below : ∀ u ∈ us, t.Beneath u)
    (read : us.mapM (r.member components) = .ok ns) : r.Keeps us ns :=
  .each read fun u hu => h.member (below u hu) components

theorem block (h : r.KeepsBelow t) (read : r.block t = .ok n) : r.Keeps t.blockTrees [n] := by
  rw [block_eq] at read
  obtain ⟨statements, hstatements, read⟩ := bind_eq_ok.1 read
  obtain rfl := pure_eq_ok.1 read
  exact (h.statements (fun u hu => beneath_of_mem_children
    (mem_children_of_mem_statementTrees hu)) hstatements).node rfl

end KeepsBelow

/-! ## Parts in fields -/

section Fields

variable {α : Type} {name : String} {k : Node → Read α} {a : α}

theorem keeps_required {f : ParseTree → Read Node} {g : ParseTree → List ParseTree}
    (each : ∀ c ∈ t.children, ∀ n, f c = .ok n → r.Keeps (g c) [n])
    (read : (required (t.field? name) >>= fun c => f c >>= k) = .ok a) :
    ∃ n, r.Keeps ((t.fieldTree name).flatMap g) [n] ∧ k n = .ok a := by
  obtain ⟨c, hc, read⟩ := bind_eq_ok.1 read
  obtain ⟨n, hn, read⟩ := bind_eq_ok.1 read
  have hc := required_eq_ok.1 hc
  refine ⟨n, ?_, read⟩
  rw [fieldTree, hc, Option.toList_some, List.flatMap_singleton]
  exact each c (mem_children_of_field? hc) n hn

theorem keeps_requiredTree {f : ParseTree → Read Node}
    (each : ∀ c, t.Beneath c → ∀ n, f c = .ok n → r.Keeps [c] [n])
    (read : (required (t.field? name) >>= fun c => f c >>= k) = .ok a) :
    ∃ n, r.Keeps (t.fieldTree name) [n] ∧ k n = .ok a := by
  have keeps := keeps_required (g := fun c => [c])
    (fun c hc => each c (beneath_of_mem_children hc)) read
  rwa [List.flatMap_singleton'] at keeps

theorem KeepsBelow.requiredExpression (h : r.KeepsBelow t)
    (read : (required (t.field? name) >>= fun c => r.expression c >>= k) = .ok a) :
    ∃ n, r.Keeps (t.fieldTree name) [n] ∧ k n = .ok a :=
  keeps_requiredTree (fun _ => h.expression) read

theorem KeepsBelow.requiredStatement (h : r.KeepsBelow t)
    (read : (required (t.field? name) >>= fun c => r.statement c >>= k) = .ok a) :
    ∃ n, r.Keeps (t.fieldTree name) [n] ∧ k n = .ok a :=
  keeps_requiredTree (fun _ => h.statement) read

theorem KeepsBelow.requiredBlock (h : r.KeepsBelow t)
    (read : (required (t.field? name) >>= fun c => r.block c >>= k) = .ok a) :
    ∃ n, r.Keeps ((t.fieldTree name).flatMap blockTrees) [n] ∧ k n = .ok a :=
  keeps_required (fun _ hc _ hn => (h.child hc).block hn) read

theorem keeps_optional {f : ParseTree → Read Node} {g : ParseTree → List ParseTree}
    {k : Option Node → Read α} (each : ∀ c ∈ t.children, ∀ n, f c = .ok n → r.Keeps (g c) [n])
    (read : ((t.field? name).mapM f >>= k) = .ok a) :
    ∃ o : Option Node, r.Keeps ((t.fieldTree name).flatMap g) o.toList ∧ k o = .ok a := by
  obtain ⟨o, ho, read⟩ := bind_eq_ok.1 read
  refine ⟨o, ?_, read⟩
  rw [fieldTree]
  cases hc : t.field? name with
  | none =>
    rw [hc] at ho
    obtain rfl := pure_eq_ok.1 ho
    exact .nil
  | some c =>
    rw [hc] at ho
    obtain ⟨n, hn, rfl⟩ := map_eq_ok.1 ho
    rw [Option.toList_some, List.flatMap_singleton]
    exact each c (mem_children_of_field? hc) n hn

theorem keeps_optionalTree {f : ParseTree → Read Node} {k : Option Node → Read α}
    (each : ∀ c, t.Beneath c → ∀ n, f c = .ok n → r.Keeps [c] [n])
    (read : ((t.field? name).mapM f >>= k) = .ok a) :
    ∃ o : Option Node, r.Keeps (t.fieldTree name) o.toList ∧ k o = .ok a := by
  have keeps := keeps_optional (g := fun c => [c])
    (fun c hc => each c (beneath_of_mem_children hc)) read
  rwa [List.flatMap_singleton'] at keeps

theorem KeepsBelow.optionalExpression (h : r.KeepsBelow t) {k : Option Node → Read α}
    (read : ((t.field? name).mapM r.expression >>= k) = .ok a) :
    ∃ o : Option Node, r.Keeps (t.fieldTree name) o.toList ∧ k o = .ok a :=
  keeps_optionalTree (fun _ => h.expression) read

theorem KeepsBelow.optionalStatement (h : r.KeepsBelow t) {k : Option Node → Read α}
    (read : ((t.field? name).mapM r.statement >>= k) = .ok a) :
    ∃ o : Option Node, r.Keeps (t.fieldTree name) o.toList ∧ k o = .ok a :=
  keeps_optionalTree (fun _ => h.statement) read

end Fields

end Functions

end Reading

end JavaCensus
