import JavaCensus.Metrics.Part
import JavaCensus.Proofs.Collecting

/-!
# The walk through code

The walk as one recursion over the code, with all that it writes to: the ledger, a statement counter
if there is one, a bucket for comments, and a handler for the types on the way, which records its
calls. The events of a walk, carried out in turn, do the same. When a walk completes, each statement
that it reached has been counted, each type has been handed over once, and the comments of the nodes
it went through have been claimed. Whether there is a counter makes no difference to the rest, also
where a walk fails.
-/
namespace JavaCensus

open Attribution (run_bind)

/-! ## The recursion -/

/-- What a walk writes to. A call has the type and the node that holds it. -/
structure WalkState where
  ledger : Ledger
  counter : Option Int
  bucket : List Comment
  calls : List (Node × Node)

/-- Steps of a walk: a step may fail, and what is written by then stays. -/
abbrev Walking := ExceptT Error (StateM WalkState)

namespace Walking

def count (k : Nat) : Walking Unit := do
  let w ← get
  let counter ← ExceptT.mk (pure (w.counter.mapM fun total => addStatements total k))
  set { w with counter := counter }

def claimOwn (n : Node) : Walking Unit :=
  modify fun w => { w with
    ledger := w.ledger.claimAll n.ownComments
    bucket := w.bucket ++ w.ledger.fresh n.ownComments }

def handOver (n parent : Node) : Walking Unit :=
  modify fun w => { w with calls := w.calls ++ [(n, parent)] }

def countOwn (n : Node) : Walking Unit :=
  match n.statementCount with
  | .ok k => count k
  | .error e => throw e

def walk (n parent : Node) : Walking Unit :=
  match n.construct.codeRole with
  | .declaredType => handOver n parent
  | .anonymousType => do
    forM n.creationArguments.attach fun c => walk c.1 n
    handOver n parent
  | .counted => do
    countOwn n
    forM n.children.attach fun c => walk c.1 n
    claimOwn n
  | .passedThrough => do
    forM n.children.attach fun c => walk c.1 n
    claimOwn n
  | .foreign => throw (.unclassified n.label .codeElement)
termination_by n
decreasing_by
  · exact Node.sizeOf_lt_of_mem_children (Node.mem_children_of_mem_creationArguments c.2)
  · exact Node.sizeOf_lt_of_mem_children c.2
  · exact Node.sizeOf_lt_of_mem_children c.2

/-- The step completes from the one state in the other. -/
def Completes (x : Walking Unit) (w w' : WalkState) : Prop :=
  ((x.run.run w : Except Error Unit × WalkState) = (.ok (), w'))

end Walking

/-! ## What a walk reaches -/

namespace Node

/-- A type that is handed over instead of being walked: a declared one, or an object creation with
a body. -/
def isBoundary (n : Node) : Bool :=
  n.construct.codeRole = .declaredType || n.construct.codeRole = .anonymousType

/-- The children that a walk goes on to: none of a declared type, the arguments of an object
creation with a body, else all. -/
def entered (n : Node) : List Node :=
  match n.construct.codeRole with
  | .declaredType => []
  | .anonymousType => n.creationArguments
  | _ => n.children

theorem mem_children_of_mem_entered {n c : Node} (h : c ∈ n.entered) : c ∈ n.children := by
  unfold entered at h
  split at h
  · cases h
  · exact mem_children_of_mem_creationArguments h
  · exact h

/-- The nodes that a walk reaches, each with the node that holds it, in pre-order. -/
def reached (n parent : Node) : List (Node × Node) :=
  (n, parent) :: n.entered.attach.flatMap fun c => c.1.reached n
termination_by n
decreasing_by exact sizeOf_lt_of_mem_children (mem_children_of_mem_entered c.2)

/-- The boundaries that a walk reaches, each with the node that holds it: in pre-order, but an
object creation after those in its arguments. -/
def boundaries (n parent : Node) : List (Node × Node) :=
  (n.entered.attach.flatMap fun c => c.1.boundaries n) ++
    if n.isBoundary then [(n, parent)] else []
termination_by n
decreasing_by exact sizeOf_lt_of_mem_children (mem_children_of_mem_entered c.2)

variable (n parent : Node)

theorem reached_eq :
    n.reached parent = (n, parent) :: n.entered.flatMap (·.reached n) := by
  rw [reached, List.flatMap_subtype (g := (·.reached n)) fun _ _ => rfl, List.unattach_attach]

theorem boundaries_eq : n.boundaries parent =
    n.entered.flatMap (·.boundaries n) ++ if n.isBoundary then [(n, parent)] else [] := by
  rw [boundaries, List.flatMap_subtype (g := (·.boundaries n)) fun _ _ => rfl,
    List.unattach_attach]

theorem boundaries_perm :
    (n.boundaries parent).Perm ((n.reached parent).filter (·.1.isBoundary)) := by
  induction n using Node.induction generalizing parent with
  | step n ih =>
    have below : (n.entered.flatMap (·.boundaries n)).Perm
        ((n.entered.flatMap (·.reached n)).filter (·.1.isBoundary)) := by
      rw [List.filter_flatMap]
      exact List.Perm.flatMap_left _ fun c hc => ih c (mem_children_of_mem_entered hc) n
    rw [boundaries_eq, reached_eq, List.filter_cons]
    split
    · exact List.perm_append_comm.trans (below.cons _)
    · rw [List.append_nil]
      exact below

end Node

/-- What a completed walk has written. -/
structure Walked (n parent : Node) (w w' : WalkState) : Prop where
  counter : ∃ counts,
    ((n.reached parent).filter fun q => q.1.construct.codeRole = .counted).mapM
      (·.1.statementCount) = .ok counts ∧
    w'.counter = w.counter.map (· + ((counts.sum : Nat) : Int))
  calls : w'.calls = w.calls ++ n.boundaries parent
  once : (n.boundaries parent).Perm ((n.reached parent).filter (·.1.isBoundary))
  claimed : ∀ c, c ∈ w'.ledger.claimed ↔ c ∈ w.ledger.claimed ∨
    ∃ q ∈ n.reached parent, q.1.isBoundary = false ∧ c ∈ q.1.ownComments
  bucket : ∃ taken, w'.ledger.claimed = w.ledger.claimed ++ taken ∧ w'.bucket = w.bucket ++ taken

/-! ## Events -/

namespace Walking

variable {n parent : Node} {w w' : WalkState}

def meet : Visit → Walking Unit
  | .count k => count k
  | .claim n => claimOwn n
  | .type n parent => handOver n parent
  | .fail e => throw e

theorem walk_eq (n parent : Node) : walk n parent =
    match n.construct.codeRole with
    | .declaredType => handOver n parent
    | .anonymousType => do
      forM n.creationArguments fun c => walk c n
      handOver n parent
    | .counted => do
      countOwn n
      forM n.children fun c => walk c n
      claimOwn n
    | .passedThrough => do
      forM n.children fun c => walk c n
      claimOwn n
    | .foreign => throw (.unclassified n.label .codeElement) := by
  have plain (cs : List Node) :
      (forM cs.attach fun c => walk c.1 n) = forM cs fun c => walk c n := by
    conv_rhs => rw [← List.attach_map_subtype_val cs]
    rw [List.forM_map]
  rw [walk]
  simp only [plain]

/-- The recursion writes down the events of the walk in turn. -/
theorem walk_eq_forM (n parent : Node) : walk n parent = forM (visits n parent) meet := by
  induction n using Node.induction generalizing parent with
  | step n ih =>
    have deeper {cs : List Node} (hcs : ∀ c ∈ cs, c ∈ n.children) :
        forM (cs.flatMap (visits · n)) meet = forM cs fun c => walk c n := by
      induction cs with
      | nil => rfl
      | cons c cs ihcs =>
        rw [List.flatMap_cons, List.forM_append, List.forM_cons,
          ihcs fun d hd => hcs d (List.mem_cons_of_mem _ hd), ih c (hcs c (List.mem_cons_self ..))]
    have own : forM n.ownCount meet = countOwn n := by
      unfold Node.ownCount countOwn
      cases n.statementCount <;> simp [meet]
    rw [walk_eq, visits_eq]
    cases n.construct.codeRole with
    | declaredType => simp [meet]
    | anonymousType =>
      simp only [List.forM_append, deeper fun _ => Node.mem_children_of_mem_creationArguments]
      simp [meet]
    | counted =>
      simp only [List.forM_append, own, deeper fun _ h => h]
      simp [meet]
    | passedThrough =>
      simp only [List.forM_append, deeper fun _ h => h]
      simp [meet]
    | foreign => simp [meet]

/-! ## Runs -/

theorem completes_pure : (pure () : Walking Unit).Completes w w' ↔ w = w' := by
  show (Except.ok (), w) = (Except.ok (), w') ↔ _
  simp

theorem completes_bind {x : Walking Unit} {f : Unit → Walking Unit} :
    (x >>= f).Completes w w' ↔ ∃ v, x.Completes w v ∧ (f ()).Completes v w' := by
  unfold Completes
  rw [run_bind]
  generalize (x.run.run w : Except Error Unit × WalkState) = r
  rcases r with ⟨e | ⟨⟩, v⟩
  · constructor
    · intro h
      cases congrArg Prod.fst h
    · rintro ⟨_, h, _⟩
      cases congrArg Prod.fst h
  · constructor
    · exact fun h => ⟨v, rfl, h⟩
    · rintro ⟨_, h, k⟩
      cases h
      exact k

theorem run_count (k : Nat) (w : WalkState) :
    ((count k).run.run w : Except Error Unit × WalkState) =
      (.ok (), { w with counter := w.counter.map (· + (k : Int)) }) := by
  have added : (w.counter.mapM fun total => addStatements total k) =
      .ok (w.counter.map (· + (k : Int))) := by
    cases w.counter with
    | none => rfl
    | some total =>
      have nonneg : ¬(k : Int) < 0 := by omega
      simp [addStatements, nonneg]
  rw [count, run_bind]
  show ((ExceptT.mk (pure (w.counter.mapM fun total => addStatements total k)) >>=
    fun counter => set { w with counter := counter } : Walking Unit).run.run w :
      Except Error Unit × WalkState) = _
  rw [added]
  rfl

theorem completes_count {k : Nat} : (count k).Completes w w' ↔
    { w with counter := w.counter.map (· + (k : Int)) } = w' := by
  rw [Completes, run_count, Prod.mk.injEq]
  exact and_iff_right rfl

theorem completes_claimOwn : (claimOwn n).Completes w w' ↔
    { w with
      ledger := w.ledger.claimAll n.ownComments
      bucket := w.bucket ++ w.ledger.fresh n.ownComments } = w' := by
  show (Except.ok (), _) = (Except.ok (), w') ↔ _
  rw [Prod.mk.injEq]
  exact and_iff_right rfl

theorem completes_handOver : (handOver n parent).Completes w w' ↔
    { w with calls := w.calls ++ [(n, parent)] } = w' := by
  show (Except.ok (), _) = (Except.ok (), w') ↔ _
  rw [Prod.mk.injEq]
  exact and_iff_right rfl

theorem not_completes_throw {e : Error} : ¬(throw e : Walking Unit).Completes w w' := by
  intro h
  cases congrArg Prod.fst h

end Walking

/-! ## Completed events -/

def Visit.count? : Visit → Option Nat
  | .count k => some k
  | .claim _ | .type .. | .fail _ => none

def Visit.call? : Visit → Option (Node × Node)
  | .type n parent => some (n, parent)
  | .count _ | .claim _ | .fail _ => none

/-- What events that were all carried out have written. -/
structure Wrote (events : List Visit) (w w' : WalkState) : Prop where
  fine : ∀ e, .fail e ∉ events
  counter : w'.counter = w.counter.map (· + (((events.filterMap Visit.count?).sum : Nat) : Int))
  calls : w'.calls = w.calls ++ events.filterMap Visit.call?
  claimed : ∀ c, c ∈ w'.ledger.claimed ↔ c ∈ w.ledger.claimed ∨
    ∃ n, .claim n ∈ events ∧ c ∈ n.ownComments
  bucket : ∃ taken, w'.ledger.claimed = w.ledger.claimed ++ taken ∧ w'.bucket = w.bucket ++ taken

namespace Wrote

variable {e : Visit} {events rest : List Visit} {w v w' : WalkState}

theorem nil (w : WalkState) : Wrote [] w w where
  fine := by simp
  counter := by simp
  calls := by simp
  claimed := by simp
  bucket := ⟨[], by simp⟩

theorem append (h : Wrote events w v) (k : Wrote rest v w') : Wrote (events ++ rest) w w' where
  fine := by
    intro e he
    exact (List.mem_append.1 he).elim (h.fine e) (k.fine e)
  counter := by
    rw [k.counter, h.counter, Option.map_map, List.filterMap_append, List.sum_append]
    congr 1
    funext total
    simp only [Function.comp_apply, Int.natCast_add]
    omega
  calls := by
    rw [k.calls, h.calls, List.filterMap_append, List.append_assoc]
  claimed := by
    intro c
    rw [k.claimed, h.claimed, or_assoc]
    refine or_congr_right ?_
    simp only [List.mem_append, or_and_right, exists_or]
  bucket := by
    obtain ⟨first, claimed, bucket⟩ := h.bucket
    obtain ⟨second, claimed', bucket'⟩ := k.bucket
    exact ⟨first ++ second, by simp [claimed, claimed'], by simp [bucket, bucket']⟩

theorem of_meet (h : (Walking.meet e).Completes w w') : Wrote [e] w w' := by
  cases e with
  | count k =>
    obtain rfl := Walking.completes_count.1 h
    exact ⟨by simp, by simp [Visit.count?], by simp [Visit.call?, List.filterMap_cons], by simp,
      ⟨[], by simp⟩⟩
  | claim n =>
    obtain rfl := Walking.completes_claimOwn.1 h
    refine ⟨by simp, by simp [Visit.count?, List.filterMap_cons],
      by simp [Visit.call?, List.filterMap_cons], ?_, ?_⟩
    · simp [Ledger.mem_claimAll]
    · exact ⟨_, Ledger.claimed_claimAll w.ledger n.ownComments, rfl⟩
  | type n parent =>
    obtain rfl := Walking.completes_handOver.1 h
    exact ⟨by simp, by simp [Visit.count?, List.filterMap_cons], by simp [Visit.call?], by simp,
      ⟨[], by simp⟩⟩
  | fail e => exact absurd h Walking.not_completes_throw

theorem of_forM (h : (forM events Walking.meet : Walking Unit).Completes w w') :
    Wrote events w w' := by
  induction events generalizing w with
  | nil =>
    obtain rfl := Walking.completes_pure.1 h
    exact .nil w
  | cons e events ih =>
    rw [List.forM_cons, Walking.completes_bind] at h
    obtain ⟨v, first, rest⟩ := h
    exact (of_meet first).append (ih rest)

end Wrote

/-! ## The events of a tree -/

/-- Events, none of them a failure, that tell of the given nodes: each is counted or claimed as is
due to it. -/
structure Tells (events : List Visit) (reached calls : List (Node × Node)) : Prop where
  counts : (reached.filter fun q => q.1.construct.codeRole = .counted).mapM
    (·.1.statementCount) = .ok (events.filterMap Visit.count?)
  calls : events.filterMap Visit.call? = calls
  claims : ∀ n, .claim n ∈ events ↔ ∃ q ∈ reached, q.1.isBoundary = false ∧ n = q.1

namespace Tells

variable {events rest : List Visit} {reached others calls more : List (Node × Node)}
  {n parent : Node}

theorem nil : Tells [] [] [] :=
  ⟨rfl, rfl, by simp⟩

theorem append (h : Tells events reached calls) (k : Tells rest others more) :
    Tells (events ++ rest) (reached ++ others) (calls ++ more) where
  counts := by
    rw [List.filter_append, List.mapM_append, h.counts, k.counts, List.filterMap_append]
    rfl
  calls := by
    rw [List.filterMap_append, h.calls, k.calls]
  claims := by
    intro n
    simp only [List.mem_append, h.claims, k.claims, or_and_right, exists_or]

theorem boundary (h : Tells events reached calls) (role : n.isBoundary) :
    Tells (events ++ [.type n parent]) ((n, parent) :: reached) (calls ++ [(n, parent)]) where
  counts := by
    have other : n.construct.codeRole ≠ .counted := by
      intro counted
      simp [Node.isBoundary, counted] at role
    simp [other, h.counts, Visit.count?, List.filterMap_cons]
  calls := by
    simp [h.calls, Visit.call?]
  claims := by
    intro m
    simp [h.claims, role]

theorem passedThrough (h : Tells events reached calls)
    (role : n.construct.codeRole = .passedThrough) :
    Tells (events ++ [.claim n]) ((n, parent) :: reached) calls where
  counts := by
    simp [role, h.counts, Visit.count?, List.filterMap_cons]
  calls := by
    simp [h.calls, Visit.call?, List.filterMap_cons]
  claims := by
    intro m
    have inner : n.isBoundary = false := by simp [Node.isBoundary, role]
    simp [h.claims, inner, or_comm]

theorem counted (h : Tells events reached calls) (role : n.construct.codeRole = .counted) {k : Nat}
    (count : n.statementCount = .ok k) :
    Tells (.count k :: events ++ [.claim n]) ((n, parent) :: reached) calls where
  counts := by
    simp [role, h.counts, Visit.count?, List.filterMap_cons, count]
    rfl
  calls := by
    simp [h.calls, Visit.call?, List.filterMap_cons]
  claims := by
    intro m
    have inner : n.isBoundary = false := by simp [Node.isBoundary, role]
    simp [h.claims, inner, or_comm]

theorem flatMap {f : Node → List Visit} {g c : Node → List (Node × Node)} {ns : List Node}
    (h : ∀ n ∈ ns, Tells (f n) (g n) (c n)) :
    Tells (ns.flatMap f) (ns.flatMap g) (ns.flatMap c) := by
  induction ns with
  | nil => exact nil
  | cons n ns ih =>
    rw [List.flatMap_cons, List.flatMap_cons, List.flatMap_cons]
    exact (h n (List.mem_cons_self ..)).append (ih fun m hm => h m (List.mem_cons_of_mem _ hm))

end Tells

/-- The events of a walk on which nothing fails tell of the nodes that it reaches. -/
theorem visits_tell (n parent : Node) (fine : ∀ e, .fail e ∉ visits n parent) :
    Tells (visits n parent) (n.reached parent) (n.boundaries parent) := by
  induction n using Node.induction generalizing parent with
  | step n ih =>
    have deeper (inside : ∀ e, .fail e ∉ n.entered.flatMap (visits · n)) :
        Tells (n.entered.flatMap (visits · n)) (n.entered.flatMap (·.reached n))
          (n.entered.flatMap (·.boundaries n)) := by
      refine .flatMap fun c hc => ih c (Node.mem_children_of_mem_entered hc) n fun e he => ?_
      exact inside e (List.mem_flatMap.2 ⟨c, hc, he⟩)
    rw [visits_eq] at fine ⊢
    rw [Node.reached_eq, Node.boundaries_eq]
    cases role : n.construct.codeRole with
    | declaredType =>
      have enters : n.entered = [] := by simp [Node.entered, role]
      have boundary : n.isBoundary := by simp [Node.isBoundary, role]
      rw [enters, if_pos boundary]
      exact Tells.nil.boundary boundary
    | anonymousType =>
      have enters : n.entered = n.creationArguments := by simp [Node.entered, role]
      have boundary : n.isBoundary := by simp [Node.isBoundary, role]
      rw [enters] at deeper ⊢
      rw [if_pos boundary]
      simp only [role] at fine
      exact (deeper fun e he => fine e (List.mem_append_left _ he)).boundary boundary
    | counted =>
      have enters : n.entered = n.children := by simp [Node.entered, role]
      have inner : ¬n.isBoundary := by simp [Node.isBoundary, role]
      rw [enters] at deeper ⊢
      rw [if_neg inner, List.append_nil]
      simp only [role, Node.ownCount] at fine ⊢
      cases count : n.statementCount with
      | error e =>
        simp only [count] at fine
        exact absurd (by simp) (fine e)
      | ok k =>
        simp only [count] at fine ⊢
        refine Tells.counted (deeper fun e he => fine e ?_) role count
        simp [he]
    | passedThrough =>
      have enters : n.entered = n.children := by simp [Node.entered, role]
      have inner : ¬n.isBoundary := by simp [Node.isBoundary, role]
      rw [enters] at deeper ⊢
      rw [if_neg inner, List.append_nil]
      simp only [role] at fine
      exact (deeper fun e he => fine e (List.mem_append_left _ he)).passedThrough role
    | foreign => simp [role] at fine

/-! ## The walk -/

namespace WalkState

def uncounted (w : WalkState) : WalkState :=
  { w with counter := none }

def gathered (w : WalkState) (t : Tally (Node × Node)) (l : Ledger) : WalkState where
  ledger := l
  counter := w.counter.map (· + (t.statements : Int))
  bucket := w.bucket ++ t.comments
  calls := w.calls ++ t.types

end WalkState

namespace Walking

variable {n parent : Node} {w w' : WalkState} {events : List Visit}

theorem run_meet_uncounted (e : Visit) (w : WalkState) :
    ((meet e).run.run w.uncounted : Except Error Unit × WalkState) =
      (((meet e).run.run w).1, WalkState.uncounted ((meet e).run.run w).2) := by
  cases e with
  | count k =>
    show ((count k).run.run w.uncounted : Except Error Unit × WalkState) =
      (((count k).run.run w).1, WalkState.uncounted ((count k).run.run w).2)
    rw [run_count, run_count]
    rfl
  | claim n => rfl
  | type n parent => rfl
  | fail e => rfl

/-- The counter has no part in what else is written, nor in how the walk ends. -/
theorem run_forM_uncounted (events : List Visit) (w : WalkState) :
    ((forM events meet : Walking Unit).run.run w.uncounted : Except Error Unit × WalkState) =
      (((forM events meet : Walking Unit).run.run w).1,
        WalkState.uncounted ((forM events meet : Walking Unit).run.run w).2) := by
  induction events generalizing w with
  | nil => rfl
  | cons e events ih =>
    rw [List.forM_cons, run_bind, run_bind, run_meet_uncounted]
    generalize ((meet e).run.run w : Except Error Unit × WalkState) = r
    rcases r with ⟨e | ⟨⟩, v⟩
    · rfl
    · exact ih v

def recordCall (n parent : Node) : Attribution (Node × Node) :=
  pure (n, parent)

theorem meet_completes {e : Visit} {t : Tally (Node × Node)} {l : Ledger}
    (h : (runVisit recordCall e).Returns w.ledger t l) : (meet e).Completes w (w.gathered t l) := by
  cases e with
  | count k =>
    obtain ⟨rfl, rfl⟩ := Attribution.returns_pure.1 h
    rw [meet, completes_count]
    simp [WalkState.gathered]
  | claim n =>
    obtain ⟨taken, m, claim, result⟩ := Attribution.returns_bind.1 h
    obtain ⟨rfl, rfl⟩ := Attribution.returns_claim.1 claim
    obtain ⟨rfl, rfl⟩ := Attribution.returns_pure.1 result
    rw [meet, completes_claimOwn]
    simp [WalkState.gathered]
  | type n parent =>
    obtain ⟨call, m, made, result⟩ := Attribution.returns_bind.1 h
    obtain ⟨rfl, rfl⟩ := Attribution.returns_pure.1 made
    obtain ⟨rfl, rfl⟩ := Attribution.returns_pure.1 result
    rw [meet, completes_handOver]
    simp [WalkState.gathered]
  | fail e => exact absurd h Attribution.not_returns_throw

theorem meet_fails {e : Visit} {x : Error} {l : Ledger}
    (h : ((runVisit recordCall e).run.run w.ledger : Except Error _ × Ledger) = (.error x, l)) :
    ((meet e).run.run w : Except Error Unit × WalkState) = (.error x, w) ∧ l = w.ledger := by
  cases e with
  | count k => cases congrArg Prod.fst h
  | claim n => cases congrArg Prod.fst h
  | type n parent => cases congrArg Prod.fst h
  | fail e =>
    cases h
    exact ⟨rfl, rfl⟩

theorem gathered_gathered (w : WalkState) (t : Tally (Node × Node))
    (ts : List (Tally (Node × Node))) (l m : Ledger) : (w.gathered t l).gathered (Tally.gather ts) m =
      w.gathered (Tally.gather (t :: ts)) m := by
  simp [WalkState.gathered, Tally.gather, Option.map_map, Function.comp_def, add_assoc]

theorem forM_completes {parts : List (Tally (Node × Node))} {l : Ledger}
    (h : (Attribution.each events fun e _ => runVisit recordCall e).Returns w.ledger parts l) :
    (forM events meet : Walking Unit).Completes w (w.gathered (Tally.gather parts) l) := by
  induction events generalizing w parts with
  | nil =>
    obtain ⟨rfl, rfl⟩ := Attribution.returns_each_nil.1 h
    simp [List.forM_nil, completes_pure, WalkState.gathered, Tally.gather]
  | cons e events ih =>
    obtain ⟨t, m, ts, first, rest, rfl⟩ := Attribution.returns_each_cons.1 h
    rw [List.forM_cons, completes_bind, ← gathered_gathered w t ts m l]
    exact ⟨_, meet_completes first, ih rest⟩

theorem forM_fails {x : Error} {l : Ledger}
    (h : ((Attribution.each events fun e _ => runVisit recordCall e).run.run w.ledger :
      Except Error _ × Ledger) = (.error x, l)) :
    ∃ w', ((forM events meet : Walking Unit).run.run w : Except Error Unit × WalkState) =
      (.error x, w') ∧ w'.ledger = l := by
  induction events generalizing w with
  | nil => cases congrArg Prod.fst h
  | cons e events ih =>
    rw [Attribution.each, run_bind] at h
    rw [List.forM_cons, run_bind]
    cases first : ((runVisit recordCall e).run.run w.ledger : Except Error _ × Ledger) with
    | mk r m =>
      rw [first] at h
      cases r with
      | error y =>
        cases h
        obtain ⟨failed, rfl⟩ := meet_fails first
        rw [failed]
        exact ⟨w, rfl, rfl⟩
      | ok t =>
        rw [show ((meet e).run.run w : Except Error Unit × WalkState) = _ from
          meet_completes first]
        simp only [run_bind] at h
        cases later : ((Attribution.each events fun e _ => runVisit recordCall e).run.run m :
          Except Error _ × Ledger) with
        | mk r k =>
          rw [later] at h
          cases r with
          | error y =>
            cases h
            exact ih (w := w.gathered t m) later
          | ok ts => cases congrArg Prod.fst h

/-- The walk as events that are carried out does what the recursion does. -/
theorem walk_agrees (n parent : Node) (w : WalkState) :
    (∀ t l, (runVisits (visits n parent) fun t p _ => recordCall t p).Returns w.ledger t l →
      (walk n parent).Completes w (w.gathered t l)) ∧
    ∀ x l, ((runVisits (visits n parent) fun t p _ => recordCall t p).run.run w.ledger :
        Except Error _ × Ledger) = (.error x, l) →
      ∃ w', ((walk n parent).run.run w : Except Error Unit × WalkState) = (.error x, w') ∧
        w'.ledger = l := by
  rw [runVisits_eq, walk_eq_forM]
  constructor
  · intro t l h
    obtain ⟨parts, m, events, result⟩ := Attribution.returns_bind.1 h
    obtain ⟨rfl, rfl⟩ := Attribution.returns_pure.1 result
    rw [Tally.foldl_append]
    exact forM_completes events
  · intro x l h
    rw [run_bind] at h
    cases events : ((Attribution.each (visits n parent) fun e _ =>
      runVisit recordCall e).run.run w.ledger : Except Error _ × Ledger) with
    | mk r m =>
      rw [events] at h
      cases r with
      | error y =>
        cases h
        exact forM_fails events
      | ok parts => cases congrArg Prod.fst h

/-- A walk that completes has added to its counter what the statements that it reached count, has
handed over each boundary once, and has claimed the comments of all other nodes that it reached.
Without the counter it is the same walk, also where it fails; and so it is if its events are
carried out in turn. -/
theorem walk_counts_calls_and_claims (n parent : Node) (w : WalkState) :
    (∀ w', (walk n parent).Completes w w' → Walked n parent w w') ∧
    ((walk n parent).run.run w.uncounted : Except Error Unit × WalkState) =
      (((walk n parent).run.run w).1, WalkState.uncounted ((walk n parent).run.run w).2) ∧
    (∀ t l, (runVisits (visits n parent) fun t p _ => recordCall t p).Returns w.ledger t l →
      (walk n parent).Completes w (w.gathered t l)) ∧
    ∀ x l, ((runVisits (visits n parent) fun t p _ => recordCall t p).run.run w.ledger :
        Except Error _ × Ledger) = (.error x, l) →
      ∃ w', ((walk n parent).run.run w : Except Error Unit × WalkState) = (.error x, w') ∧
        w'.ledger = l := by
  refine ⟨fun w' completes => ?_, ?_, walk_agrees n parent w⟩
  · rw [walk_eq_forM] at completes
    have wrote := Wrote.of_forM completes
    have tells := visits_tell n parent wrote.fine
    refine ⟨⟨_, tells.counts, wrote.counter⟩, ?_, n.boundaries_perm parent, ?_, wrote.bucket⟩
    · rw [wrote.calls, tells.calls]
    · intro c
      rw [wrote.claimed]
      refine or_congr_right ⟨?_, ?_⟩
      · rintro ⟨m, claim, hc⟩
        obtain ⟨q, hq, inner, rfl⟩ := (tells.claims m).1 claim
        exact ⟨q, hq, inner, hc⟩
      · rintro ⟨q, hq, inner, hc⟩
        exact ⟨q.1, (tells.claims q.1).2 ⟨q, hq, inner, rfl⟩, hc⟩
  · rw [walk_eq_forM]
    exact run_forM_uncounted _ w

def innerCreation : Node :=
  .bare (.ofLines 2 20 2 30) (.objectCreation "Inner" [] (some []))

def outerCreation : Node :=
  .bare (.ofLines 2 10 3 20) (.objectCreation "Outer" [innerCreation] (some []))

/-- A statement, with a comment on it, that returns `outerCreation`. -/
def returningCreation : Node where
  span := .ofLines 2 3 3 21
  slots := ⟨some ⟨1, .line, " made here", .ofLines 1 3 1 15⟩, none, []⟩
  construct := .returnStatement (some outerCreation)

def returningBlock : Node :=
  .bare (.ofLines 1 1 4 1) (.block [returningCreation])

theorem walk_counts_calls_and_claims_returningCreation : ∃ w',
    (walk returningCreation returningBlock).Completes ⟨.empty, some 5, [], []⟩ w' ∧
      Walked returningCreation returningBlock ⟨.empty, some 5, [], []⟩ w' ∧
      w'.counter = some 6 ∧
      w'.calls = [(innerCreation, outerCreation), (outerCreation, returningCreation)] := by
  have events : visits returningCreation returningBlock = [.count 1,
      .type innerCreation outerCreation, .type outerCreation returningCreation,
      .claim returningCreation] := by
    cbv
  obtain ⟨w', completes, counter, calls⟩ : ∃ w',
      (walk returningCreation returningBlock).Completes ⟨.empty, some 5, [], []⟩ w' ∧
        w'.counter = some 6 ∧
        w'.calls = [(innerCreation, outerCreation), (outerCreation, returningCreation)] := by
    rw [walk_eq_forM, events]
    exact ⟨_, rfl, rfl, rfl⟩
  have walked := (walk_counts_calls_and_claims returningCreation returningBlock _).1 w' completes
  exact ⟨w', completes, walked, counter, calls⟩

end Walking

end JavaCensus
