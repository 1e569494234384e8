import JavaCensus.Collect.Ledger

/-!
# Walking code

`statementCount` says how many statements one construct makes on its own. `visits` lists what
happens when code is walked: statements are counted, the comments of each construct are claimed
after those of its parts, and the types met on the way are handed over, not entered.
-/
namespace JavaCensus

namespace Node

/-- How many of the nodes have an initializer. -/
def countInitialized : List Node → Except Error Nat
  | [] => .ok 0
  | n :: ns =>
    match n.construct.initializer? with
    | none => .error (.mishap .absentPart)
    | some initializer => (countInitialized ns).map (· + if initializer.isSome then 1 else 0)

/-- The statements a node makes on its own, its children left out. -/
def statementCount (n : Node) : Except Error Nat :=
  match n.construct with
  | .constructorCall _ _ true => .ok 0
  | .constructorCall _ _ false | .assertStatement .. | .breakStatement _ | .continueStatement _
  | .doStatement .. | .expressionStatement _ | .forStatement .. | .forEachStatement ..
  | .ifStatement .. | .returnStatement _ | .switchStatement .. | .synchronizedStatement ..
  | .throwStatement _ | .whileStatement .. | .switchEntry .. => .ok 1
  | .tryStatement resources _ _ _ => (countInitialized resources).map (1 + ·)
  | .localDeclaration _ declarators => countInitialized declarators
  | .block _ | .emptyStatement | .labeledStatement .. | .yieldStatement _ => .ok 0
  | _ => .error (.unclassified n.label .statement)

end Node

/-- One event of a walk. A type is met together with the node that holds it. -/
inductive Visit where
  | count (statements : Nat)
  | claim (node : Node)
  | type (node parent : Node)
  | fail (error : Error)

/-- The arguments of an object creation. -/
def Node.creationArguments (n : Node) : List Node :=
  match n.construct with
  | .objectCreation _ arguments _ => arguments
  | _ => []

theorem Node.mem_children_of_mem_creationArguments {n c : Node}
    (h : c ∈ n.creationArguments) : c ∈ n.children := by
  unfold creationArguments at h
  split at h
  · rename_i e
    rw [children, e, Construct.children]
    exact List.mem_append_left _ h
  · simp at h

/-- What a node itself adds to a walk before its children. -/
def Node.ownCount (n : Node) : List Visit :=
  match n.statementCount with
  | .ok k => [.count k]
  | .error e => [.fail e]

/-- The events of a walk through the code of a node. -/
def visits (n parent : Node) : List Visit :=
  match n.construct.codeRole with
  | .declaredType => [.type n parent]
  | .anonymousType => (n.creationArguments.attach.flatMap fun c => visits c.1 n) ++ [.type n parent]
  | .counted => n.ownCount ++ (n.children.attach.flatMap fun c => visits c.1 n) ++ [.claim n]
  | .passedThrough => (n.children.attach.flatMap fun c => visits c.1 n) ++ [.claim n]
  | .foreign => [.fail (.unclassified n.label .codeElement)]
termination_by n
decreasing_by
  · exact Node.sizeOf_lt_of_mem_children (Node.mem_children_of_mem_creationArguments c.2)
  · exact Node.sizeOf_lt_of_mem_children c.2
  · exact Node.sizeOf_lt_of_mem_children c.2

theorem visits_eq (n parent : Node) : visits n parent =
    match n.construct.codeRole with
    | .declaredType => [.type n parent]
    | .anonymousType => (n.creationArguments.flatMap (visits · n)) ++ [.type n parent]
    | .counted => n.ownCount ++ (n.children.flatMap (visits · n)) ++ [.claim n]
    | .passedThrough => (n.children.flatMap (visits · n)) ++ [.claim n]
    | .foreign => [.fail (.unclassified n.label .codeElement)] := by
  have flat : ∀ cs : List Node,
      (cs.attach.flatMap fun c => visits c.1 n) = cs.flatMap (visits · n) := fun cs => by
    rw [List.flatMap_subtype (g := (visits · n)) fun _ _ => rfl, List.unattach_attach]
  rw [visits, flat, flat]

/-- The types met on a walk are no larger than the code walked. -/
theorem sizeOf_le_of_mem_visits {t p : Node} (n parent : Node) (h : .type t p ∈ visits n parent) :
    sizeOf t ≤ sizeOf n := by
  induction n using Node.induction generalizing parent with
  | step n ih =>
    have deeper : ∀ cs : List Node, (∀ c ∈ cs, c ∈ n.children) →
        .type t p ∈ cs.flatMap (visits · n) → sizeOf t ≤ sizeOf n := by
      intro cs hcs h
      obtain ⟨c, hc, h⟩ := List.mem_flatMap.1 h
      exact Nat.le_trans (ih c (hcs c hc) n h)
        (Nat.le_of_lt (Node.sizeOf_lt_of_mem_children (hcs c hc)))
    rw [visits_eq] at h
    cases hr : n.construct.codeRole <;> simp only [hr, List.mem_append, List.mem_singleton] at h
    · cases h
      exact Nat.le_refl _
    · rcases h with h | h
      · exact deeper _ (fun c => Node.mem_children_of_mem_creationArguments) h
      · cases h
        exact Nat.le_refl _
    · rcases h with (h | h) | h
      · unfold Node.ownCount at h
        split at h <;> simp at h
      · exact deeper _ (fun c h => h) h
      · cases h
    · rcases h with h | h
      · exact deeper _ (fun c h => h) h
      · cases h
    · cases h

/-- What a walk gathers: statements, claimed comments and the results for the types met. -/
structure Tally (τ : Type) where
  statements : Nat
  comments : List Comment
  types : List τ

namespace Tally

variable {τ : Type}

def empty : Tally τ := ⟨0, [], []⟩

def append (a b : Tally τ) : Tally τ :=
  ⟨a.statements + b.statements, a.comments ++ b.comments, a.types ++ b.types⟩

end Tally

/-- Carries out the events of a walk in turn; the handler may use that the type is one of those
met. -/
def runVisits {τ : Type} (events : List Visit)
    (onType : (t p : Node) → .type t p ∈ events → Attribution τ) : Attribution (Tally τ) := do
  let parts ← Attribution.each events fun
    | .count k, _ => pure ⟨k, [], []⟩
    | .claim n, _ => return ⟨0, ← Attribution.claimOwn n, []⟩
    | .type t p, h => return ⟨0, [], [← onType t p h]⟩
    | .fail e, _ => throw e
  return parts.foldl Tally.append Tally.empty

end JavaCensus
