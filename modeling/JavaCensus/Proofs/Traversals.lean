import JavaCensus.Proofs.Lineage
import JavaCensus.Proofs.Nesting

/-!
# Traversals

Two loops go through a parse tree with a stack in place of recursion. One walks through all trees,
the other one looks for code and turns back where it finds some. Both list what a recursive
definition lists, and both come to an end. What is listed is told by routes: a node of a tree is
where a route ends, and equal trees at two places have two routes.
-/
namespace JavaCensus

/-- The numbers of the children on the way down to a tree, the first one first. Routes are ordered
like words, so a route comes before those that lead on from it. -/
abbrev Route := List Nat

namespace ParseTree

variable {t u : ParseTree}

/-! ## Trees on routes -/

/-- The tree that a route leads to. -/
def at? : ParseTree → Route → Option ParseTree
  | t, [] => some t
  | t, i :: route => t.children[i]?.bind fun c => c.at? route

theorem at?_cons {i : Nat} {route : Route} :
    t.at? (i :: route) = some u ↔ ∃ c, t.children[i]? = some c ∧ c.at? route = some u := by
  rw [at?, Option.bind_eq_some_iff]

/-- The trees are those on the routes of a kind, each route once, in the order of the routes. -/
def Enumerates (t : ParseTree) (kind : Route → Prop) (trees : List ParseTree) : Prop :=
  ∃ routes : List Route, routes.Pairwise (· < ·) ∧ (∀ route, route ∈ routes ↔ kind route) ∧
    routes.map t.at? = trees.map some

section Enumerations

variable {kind : Route → Prop} {trees : List ParseTree}

theorem enumerates_nil (none : ∀ route, ¬kind route) : t.Enumerates kind [] :=
  ⟨[], .nil, fun route => iff_of_false List.not_mem_nil (none route), rfl⟩

theorem Enumerates.congr {other : Route → Prop} (h : t.Enumerates kind trees)
    (same : ∀ route, kind route ↔ other route) : t.Enumerates other trees := by
  obtain ⟨routes, sorted, mem, trees⟩ := h
  exact ⟨routes, sorted, fun route => (mem route).trans (same route), trees⟩

/-- A tree in front of trees below it. -/
theorem Enumerates.cons_self (h : t.Enumerates kind trees) (below : ¬kind []) :
    t.Enumerates (fun route => route = [] ∨ kind route) (t :: trees) := by
  obtain ⟨routes, sorted, mem, trees⟩ := h
  refine ⟨[] :: routes, List.pairwise_cons.2 ⟨fun route hroute => ?_, sorted⟩, fun route => ?_, ?_⟩
  · cases route with
    | nil => exact absurd ((mem []).1 hroute) below
    | cons i rest => exact List.nil_lt_cons i rest
  · rw [List.mem_cons, mem]
  · rw [List.map_cons, List.map_cons, trees, at?]

/-- What the children list makes, one after the other, a list for the tree. -/
theorem enumerates_children {kinds : ParseTree → Route → Prop} {f : ParseTree → List ParseTree}
    (each : ∀ c ∈ t.children, c.Enumerates (kinds c) (f c)) :
    t.Enumerates (fun route => ∃ i c rest, route = i :: rest ∧ t.children[i]? = some c ∧
      kinds c rest) (t.children.flatMap f) := by
  unfold Enumerates at each
  -- The routes of each child, with its number in front.
  choose! routes sorted mem trees using each
  refine ⟨t.children.zipIdx.flatMap fun c => (routes c.1).map (c.2 :: ·), ?_, fun route => ?_, ?_⟩
  · rw [List.pairwise_flatMap]
    constructor
    · intro c hc
      rw [List.pairwise_map]
      exact (sorted c.1 (List.fst_mem_of_mem_zipIdx hc)).imp fun lt =>
        List.cons_lt_cons_iff.2 (.inr ⟨rfl, lt⟩)
    · rw [List.pairwise_iff_getElem]
      intro i j hi hj lt first hfirst second hsecond
      obtain ⟨_, -, rfl⟩ := List.mem_map.1 hfirst
      obtain ⟨_, -, rfl⟩ := List.mem_map.1 hsecond
      simp only [List.getElem_zipIdx, List.cons_lt_cons_iff]
      omega
  · rw [List.mem_flatMap]
    constructor
    · rintro ⟨⟨c, i⟩, hc, hroute⟩
      obtain ⟨rest, hrest, rfl⟩ := List.mem_map.1 hroute
      have child := List.mem_zipIdx_iff_getElem?.1 hc
      exact ⟨i, c, rest, rfl, child, (mem c (List.mem_of_getElem? child) rest).1 hrest⟩
    · rintro ⟨i, c, rest, rfl, child, hrest⟩
      have hrest := (mem c (List.mem_of_getElem? child) rest).2 hrest
      exact ⟨(c, i), List.mem_zipIdx_iff_getElem?.2 child, List.mem_map_of_mem hrest⟩
  · rw [List.map_flatMap, List.map_flatMap, ← flatMap_zipIdx (fun c => (f c).map some) t.children 0]
    refine List.flatMap_congr fun c hc => ?_
    have child := List.mem_zipIdx_iff_getElem?.1 hc
    calc ((routes c.1).map (c.2 :: ·)).map t.at?
        = (routes c.1).map c.1.at? := by
          rw [List.map_map]
          exact List.map_congr_left fun route _ => by simp [at?, child]
      _ = (f c.1).map some := trees c.1 (List.mem_of_getElem? child)

end Enumerations

/-! ## The walk through all trees -/

theorem isSome_at?_iff {route : Route} : (t.at? route).isSome ↔ route = [] ∨
    ∃ i c rest, route = i :: rest ∧ t.children[i]? = some c ∧ (c.at? rest).isSome := by
  cases route with
  | nil => simp [at?]
  | cons i rest => simp [at?, Option.isSome_bind, Option.any_eq_true]

/-- A walk comes to each route once. -/
theorem enumerates_walk (t : ParseTree) :
    t.Enumerates (fun route => (t.at? route).isSome) t.walk := by
  induction t using ParseTree.induction with
  | step t ih =>
    rw [walk_eq]
    exact ((enumerates_children ih).cons_self (by simp)).congr fun _ => isSome_at?_iff.symm

mutual

/-- The tree and all trees below it, each with the type of its parent. -/
def metFrom (parentType : Option String) : ParseTree → List Met
  | ⟨type, named, missing, start, stop, field, children⟩ =>
    ⟨parentType, ⟨type, named, missing, start, stop, field, children⟩⟩ ::
      metAllFrom (some type) children

def metAllFrom (parentType : Option String) : List ParseTree → List Met
  | [] => []
  | t :: ts => metFrom parentType t ++ metAllFrom parentType ts

end

theorem metAllFrom_eq (parentType : Option String) (ts : List ParseTree) :
    metAllFrom parentType ts = ts.flatMap (metFrom parentType) := by
  induction ts with
  | nil => rfl
  | cons t ts ih => rw [metAllFrom, ih, List.flatMap_cons]

theorem metFrom_eq (parentType : Option String) (t : ParseTree) :
    t.metFrom parentType = ⟨parentType, t⟩ :: t.children.flatMap (metFrom (some t.type)) := by
  cases t
  rw [metFrom, metAllFrom_eq]

theorem walkStack_eq (stack : List Met) :
    walkStack stack = stack.flatMap fun m => m.tree.metFrom m.parentType := by
  fun_induction walkStack stack with
  | case1 => rfl
  | case2 m rest ih =>
    rw [ih, List.flatMap_append, metChildren, List.flatMap_map, List.flatMap_cons, metFrom_eq,
      List.cons_append]

theorem length_walkStack (stack : List Met) :
    (walkStack stack).length = weightAll (stack.map (·.tree)) := by
  fun_induction walkStack stack with
  | case1 => rfl
  | case2 m rest ih =>
    have children : m.tree.metChildren.map (·.tree) = m.tree.children := by
      simp [metChildren, Function.comp_def]
    rw [List.length_cons, ih, List.map_append, children, weightAll_append, List.map_cons, weightAll,
      weight_eq m.tree]
    omega

theorem length_descendants (t : ParseTree) : t.descendants.length = t.weight := by
  rw [descendants, length_walkStack]
  rfl

/-! ## The search for code -/

theorem weightAll_namedChildren_lt (t : ParseTree) : weightAll t.namedChildren < t.weight := by
  have fewer : weightAll t.namedChildren ≤ weightAll t.children := weightAll_filter_le _ _
  rw [weight_eq]
  omega

mutual

/-- The tree itself if it holds code, or else the outermost trees below it that do. -/
def outermost : ParseTree → List ParseTree
  | ⟨type, named, missing, start, stop, field, children⟩ =>
    if holdsCode ⟨type, named, missing, start, stop, field, children⟩ then
      [⟨type, named, missing, start, stop, field, children⟩]
    else outermostAll children

def outermostAll : List ParseTree → List ParseTree
  | [] => []
  | t :: ts => if t.named then outermost t ++ outermostAll ts else outermostAll ts

end

/-- The outermost trees that hold code below a tree, by way of named children. -/
def outermostBelow (t : ParseTree) : List ParseTree :=
  outermostAll t.children

theorem outermostAll_eq (ts : List ParseTree) :
    outermostAll ts = ts.flatMap fun t => if t.named then t.outermost else [] := by
  induction ts with
  | nil => rfl
  | cons t ts ih =>
    rw [outermostAll, ih, List.flatMap_cons]
    split <;> rfl

theorem outermostAll_eq_named (ts : List ParseTree) :
    outermostAll ts = (ts.filter (·.named)).flatMap outermost := by
  induction ts with
  | nil => rfl
  | cons t ts ih =>
    rw [outermostAll, ih, List.filter_cons]
    split <;> rfl

theorem outermostBelow_eq (t : ParseTree) : t.outermostBelow = t.namedChildren.flatMap outermost :=
  outermostAll_eq_named t.children

theorem outermost_eq (t : ParseTree) :
    t.outermost = if t.holdsCode then [t] else t.outermostBelow := by
  cases t
  rw [outermost, outermostBelow]

theorem outermostCode_eq (stack : List ParseTree) :
    outermostCode stack = stack.flatMap outermost := by
  fun_induction outermostCode stack with
  | case1 => rfl
  | case2 t rest code ih =>
    rw [ih, List.flatMap_cons, outermost_eq, if_pos code, List.singleton_append]
  | case3 t rest code ih =>
    rw [ih, List.flatMap_append, List.flatMap_cons, outermost_eq, if_neg code, outermostBelow_eq]

theorem outermostBelow_eq_outermostCode (t : ParseTree) :
    t.outermostBelow = outermostCode t.namedChildren := by
  rw [outermostCode_eq, outermostBelow_eq]

theorem trees_nestedCode (t : ParseTree) : t.nestedCode.map (·.tree) = t.outermostBelow := by
  rw [outermostBelow_eq_outermostCode]
  simp [nestedCode]

/-- A route down to a tree that holds code: all trees on the way are named, and none but the last
one holds code. -/
structure LeadsToCode (t : ParseTree) (route : Route) : Prop where
  below : route ≠ []
  there : (t.at? route).isSome
  onWay : ∀ way u, way <+: route → way ≠ [] → t.at? way = some u →
    u.named ∧ (u.holdsCode ↔ way = route)

/-- The trees on a way are the first one and those on the way from there. -/
theorem forall_onWay_cons {i : Nat} {rest : Route} {c : ParseTree} {p : Route → ParseTree → Prop}
    (child : t.children[i]? = some c) :
    (∀ way u, way <+: i :: rest → way ≠ [] → t.at? way = some u → p way u) ↔
      p [i] c ∧ ∀ way u, way <+: rest → way ≠ [] → c.at? way = some u → p (i :: way) u := by
  constructor
  · intro all
    refine ⟨all [i] c ?_ (List.cons_ne_nil i []) (at?_cons.2 ⟨c, child, rfl⟩), ?_⟩
    · exact List.cons_prefix_cons.2 ⟨rfl, List.nil_prefix⟩
    · intro way u hway _ hu
      exact all (i :: way) u (List.cons_prefix_cons.2 ⟨rfl, hway⟩) (List.cons_ne_nil i way)
        (at?_cons.2 ⟨c, child, hu⟩)
  · rintro ⟨here, below⟩ way u hway ne hu
    obtain rfl | ⟨more, rfl, hmore⟩ := List.prefix_cons_iff.1 hway
    · exact absurd rfl ne
    obtain ⟨d, hd, hu⟩ := at?_cons.1 hu
    cases child.symm.trans hd
    cases more with
    | nil =>
      cases hu
      exact here
    | cons j more => exact below (j :: more) u hmore (List.cons_ne_nil j more) hu

theorem leadsToCode_cons {i : Nat} {rest : Route} : t.LeadsToCode (i :: rest) ↔
    ∃ c, t.children[i]? = some c ∧ c.named ∧ (c.holdsCode ↔ rest = []) ∧
      (rest = [] ∨ c.LeadsToCode rest) := by
  have last {way : Route} : i :: way = i :: rest ↔ way = rest := by simp
  constructor
  · rintro ⟨-, there, onWay⟩
    obtain ⟨u, hu⟩ := Option.isSome_iff_exists.1 there
    obtain ⟨c, child, hu⟩ := at?_cons.1 hu
    obtain ⟨⟨named, code⟩, onWay⟩ := (forall_onWay_cons child).1 onWay
    simp only [last] at code onWay
    refine ⟨c, child, named, code.trans eq_comm, ?_⟩
    by_cases empty : rest = []
    · exact .inl empty
    · exact .inr ⟨empty, Option.isSome_of_eq_some hu, onWay⟩
  · rintro ⟨c, child, named, code, reached⟩
    have there : (c.at? rest).isSome := by
      rcases reached with rfl | reached
      · rfl
      · exact reached.there
    have onWay : ∀ way u, way <+: rest → way ≠ [] → c.at? way = some u →
        u.named ∧ (u.holdsCode ↔ way = rest) := by
      rcases reached with rfl | reached
      · exact fun way u hway ne _ => absurd (List.prefix_nil.1 hway) ne
      · exact reached.onWay
    obtain ⟨u, hu⟩ := Option.isSome_iff_exists.1 there
    refine ⟨List.cons_ne_nil i rest, Option.isSome_of_eq_some (at?_cons.2 ⟨c, child, hu⟩), ?_⟩
    rw [forall_onWay_cons child]
    simp only [last]
    exact ⟨⟨named, code.trans eq_comm⟩, onWay⟩

/-- A tree that holds code is found itself, any other one has found what is found below it. -/
theorem enumerates_outermost (below : t.Enumerates t.LeadsToCode t.outermostBelow) :
    t.Enumerates (fun route => (t.holdsCode ↔ route = []) ∧ (route = [] ∨ t.LeadsToCode route))
      t.outermost := by
  rw [outermost_eq]
  by_cases code : t.holdsCode
  · rw [if_pos code]
    have self : t.Enumerates (fun route => route = [] ∨ False) [t] :=
      (enumerates_nil fun _ => id).cons_self id
    exact self.congr fun route => by simp +contextual [code]
  · rw [if_neg code]
    refine below.congr fun route => ?_
    have strict : t.LeadsToCode route → route ≠ [] := fun h => h.below
    simp only [code, false_iff, Bool.false_eq_true]
    tauto

/-- The recursive definition finds the code at the end of each route that leads to some. -/
theorem enumerates_outermostBelow (t : ParseTree) :
    t.Enumerates t.LeadsToCode t.outermostBelow := by
  induction t using ParseTree.induction with
  | step t ih =>
    have each : ∀ c ∈ t.children, c.Enumerates
        (fun rest => c.named ∧ (c.holdsCode ↔ rest = []) ∧ (rest = [] ∨ c.LeadsToCode rest))
        (if c.named then c.outermost else []) := by
      intro c hc
      by_cases named : c.named
      · rw [if_pos named]
        exact (enumerates_outermost (ih c hc)).congr fun _ => (and_iff_right named).symm
      · rw [if_neg named]
        exact enumerates_nil fun rest h => named h.1
    rw [outermostBelow, outermostAll_eq]
    refine (enumerates_children each).congr fun route => ?_
    cases route with
    | nil => simpa using fun h : t.LeadsToCode [] => h.below rfl
    | cons i rest => simp [leadsToCode_cons]

/-! ## Order in the source -/

/-- A tree as grammars give them: children lie within their parents, each one behind those in front
of it. -/
structure Sequenced (t : ParseTree) : Prop where
  within : ∀ u ∈ t.walk, ∀ c ∈ u.children, u.Encloses c
  inTurn : ∀ u ∈ t.walk, u.children.Pairwise fun c d => c.stop ≤ d.start

namespace Sequenced

theorem of_mem_children {c : ParseTree} (h : t.Sequenced) (hc : c ∈ t.children) : c.Sequenced where
  within u hu := h.within u (mem_walk_of_below hc hu)
  inTurn u hu := h.inTurn u (mem_walk_of_below hc hu)

theorem encloses (h : t.Sequenced) (hu : u ∈ t.walk) : t.Encloses u := by
  induction t using ParseTree.induction with
  | step t ih =>
    rw [walk_eq, List.mem_cons, List.mem_flatMap] at hu
    rcases hu with rfl | ⟨c, hc, hu⟩
    · exact ⟨Nat.le_refl _, Nat.le_refl _⟩
    · obtain ⟨start, stop⟩ := h.within t t.mem_walk_self c hc
      obtain ⟨startBelow, stopBelow⟩ := ih c hc (h.of_mem_children hc) hu
      exact ⟨Nat.le_trans start startBelow, Nat.le_trans stopBelow stop⟩

theorem encloses_outermost (h : t.Sequenced) (hu : u ∈ t.outermost) : t.Encloses u := by
  rw [← List.flatMap_singleton outermost t, ← outermostCode_eq] at hu
  obtain ⟨s, hs, hu⟩ := mem_walk_of_mem_outermostCode hu
  rw [List.mem_singleton.1 hs] at hu
  exact h.encloses hu

theorem pairwise_outermostBelow (h : t.Sequenced) :
    t.outermostBelow.Pairwise fun u v => u.stop ≤ v.start := by
  induction t using ParseTree.induction with
  | step t ih =>
    rw [outermostBelow_eq, List.pairwise_flatMap]
    constructor
    · intro c hc
      have hc := mem_children_of_mem_namedChildren hc
      rw [outermost_eq]
      split
      · exact List.pairwise_singleton _ c
      · exact ih c hc (h.of_mem_children hc)
    · have child {c : ParseTree} (hc : c ∈ t.namedChildren) : c.Sequenced :=
        h.of_mem_children (mem_children_of_mem_namedChildren hc)
      refine ((h.inTurn t t.mem_walk_self).filter _).imp_of_mem fun hc hd behind u hu v hv => ?_
      obtain ⟨-, before⟩ := (child hc).encloses_outermost hu
      obtain ⟨after, -⟩ := (child hd).encloses_outermost hv
      exact Nat.le_trans before (Nat.le_trans behind after)

end Sequenced

end ParseTree

/-! ## Loops over a stack -/

/-- The state of a loop: a stack with its last entry on top, and what has been found. -/
structure Loop (α β : Type) where
  stack : List α
  found : List β

namespace Loop

variable {α β : Type} (visit : α → Read (List β × List α))

/-- One pass takes the top of the stack and visits it. What the visit opens is put on the stack in
reverse, so that the first of it comes next. -/
def pass (s : Loop α β) : Read (Loop α β) :=
  match s.stack.getLast? with
  | none => return s
  | some a => do
    let (found, opened) ← visit a
    return ⟨s.stack.dropLast ++ opened.reverse, s.found ++ found⟩

def run : Nat → Loop α β → Read (Loop α β)
  | 0, s => return s
  | passes + 1, s => do run passes (← s.pass visit)

theorem run_nil (passes : Nat) (found : List β) :
    run visit passes ⟨[], found⟩ = .ok ⟨[], found⟩ := by
  induction passes with
  | zero => rfl
  | succ passes ih => exact ih

/-- Read from the top, the stack after a pass is what was opened and then the rest. -/
theorem pass_cons (a : α) (rest : List α) (found : List β) :
    pass visit ⟨(a :: rest).reverse, found⟩ = do
      let (more, opened) ← visit a
      return ⟨(opened ++ rest).reverse, found ++ more⟩ := by
  simp [pass]

end Loop

namespace ParseTree

/-- The walk keeps each tree and opens its children. -/
def Met.visit (m : Met) : Read (List Met × List Met) :=
  return ([m], m.tree.metChildren)

/-- After some passes the loop has found as many trees of the walk, and it is over once it has found
them all. -/
theorem run_visit (passes : Nat) (stack found : List Met) :
    ∃ left, Loop.run Met.visit passes ⟨stack.reverse, found⟩ =
        .ok ⟨left, found ++ (walkStack stack).take passes⟩ ∧
      (left = [] ↔ (walkStack stack).length ≤ passes) := by
  induction passes generalizing stack found with
  | zero =>
    refine ⟨stack.reverse, by simp [Loop.run, pure, Except.pure], ?_⟩
    cases stack <;> simp [walkStack]
  | succ passes ih =>
    cases stack with
    | nil => exact ⟨[], by simp [Loop.run_nil, walkStack], by simp [walkStack]⟩
    | cons m rest =>
      obtain ⟨left, run, ended⟩ := ih (m.tree.metChildren ++ rest) (found ++ [m])
      refine ⟨left, ?_, ?_⟩
      · rw [Loop.run, Loop.pass_cons, walkStack, List.take_succ_cons, List.append_cons]
        exact run
      · rw [ended, walkStack, List.length_cons, Nat.add_le_add_iff_right]

end ParseTree

namespace Reading

open ParseTree

variable (r : Reading)

/-- The search reads a tree that holds code, and opens the named children of any other tree. -/
def visitCode (t : ParseTree) : Read (List Node × List ParseTree) := do
  if t.holdsCode then return ([← r.expression t], [])
  else return ([], t.namedChildren)

/-- With a pass for each tree that may be met, the search reads the outermost trees that hold code
one after the other, and fails at the first of them that cannot be read. -/
theorem run_visitCode (stack : List ParseTree) {passes : Nat} (found : List Node)
    (enough : weightAll stack ≤ passes) :
    Loop.run r.visitCode passes ⟨stack.reverse, found⟩ = do
      return ⟨[], found ++ (← (outermostCode stack).mapM r.expression)⟩ := by
  fun_induction outermostCode stack generalizing passes found with
  | case1 => simp [Loop.run_nil, pure, Except.pure, bind, Except.bind]
  | case2 t rest code ih =>
    -- The children are passed over, so there is more left than needed.
    have lighter := weight_eq t
    rw [weightAll] at enough
    obtain ⟨passes, rfl⟩ := Nat.exists_eq_add_one_of_ne_zero (by omega : passes ≠ 0)
    rw [Loop.run, Loop.pass_cons, visitCode, if_pos code, List.mapM_cons]
    cases r.expression t with
    | error e => rfl
    | ok n =>
      show Loop.run r.visitCode passes ⟨rest.reverse, found ++ [n]⟩ = _
      rw [ih _ (by omega)]
      cases (outermostCode rest).mapM r.expression with
      | error e => rfl
      | ok nested => simp [bind, Except.bind, pure, Except.pure]
  | case3 t rest code ih =>
    have lighter := t.weightAll_namedChildren_lt
    rw [weightAll] at enough
    obtain ⟨passes, rfl⟩ := Nat.exists_eq_add_one_of_ne_zero (by omega : passes ≠ 0)
    rw [Loop.run, Loop.pass_cons, visitCode, if_neg code]
    show Loop.run r.visitCode passes ⟨(t.namedChildren ++ rest).reverse, found ++ []⟩ = _
    rw [ih _ (by rw [weightAll_append]; omega), List.append_nil]

/-- Both loops list what the recursive definitions do. The walk lists the tree on each route, one
with each pass. The search lists what the outermost trees with code below a tree are read as, from
left to right, and ends after no more passes than a walk. -/
theorem traversals_follow_recursion (t : ParseTree) :
    (t.descendants = t.metFrom none ∧
      t.Enumerates (fun route => (t.at? route).isSome) (t.descendants.map (·.tree)) ∧
      ∀ passes, ∃ left, Loop.run Met.visit passes ⟨[⟨none, t⟩], []⟩ =
          .ok ⟨left, t.descendants.take passes⟩ ∧
        (left = [] ↔ t.descendants.length ≤ passes)) ∧
    (t.nestedCode.map (·.tree) = t.outermostBelow ∧
      t.Enumerates t.LeadsToCode t.outermostBelow ∧
      (t.Sequenced → t.outermostBelow.Pairwise fun u v => u.stop ≤ v.start) ∧
      (r.plainExpression t = do
        return r.node t (.plainExpression (← t.outermostBelow.mapM r.expression))) ∧
      ∀ passes, t.descendants.length ≤ passes →
        Loop.run r.visitCode passes ⟨t.namedChildren.reverse, []⟩ = do
          return ⟨[], ← t.outermostBelow.mapM r.expression⟩) := by
  refine ⟨⟨?_, ?_, fun passes => ?_⟩, t.trees_nestedCode, t.enumerates_outermostBelow,
    Sequenced.pairwise_outermostBelow, ?_, fun passes enough => ?_⟩
  · rw [descendants, walkStack_eq, List.flatMap_singleton]
  · rw [trees_descendants]
    exact t.enumerates_walk
  · exact run_visit passes [⟨none, t⟩] []
  · rw [plainExpression_eq, outermostBelow_eq_outermostCode]
  · have lighter := t.weightAll_namedChildren_lt
    rw [length_descendants] at enough
    rw [outermostBelow_eq_outermostCode]
    exact r.run_visitCode t.namedChildren [] (by omega)

section Fork

def forkReading : Reading :=
  ⟨"A.java", .ofString "f(()->g(()->1),new A(()->2))"⟩

/-- A lambda without parameters that begins where it is told. -/
def plainLambda (start : Nat) (body : ParseTree) : ParseTree :=
  ⟨"lambda_expression", true, false, start, body.stop, none,
    [⟨"formal_parameters", true, false, start, start + 2, some "parameters",
        [⟨"(", false, false, start, start + 1, none, []⟩,
          ⟨")", false, false, start + 1, start + 2, none, []⟩]⟩,
      ⟨"->", false, false, start + 2, start + 4, none, []⟩, body]⟩

def digitBody (start : Nat) : ParseTree :=
  ⟨"decimal_integer_literal", true, false, start, start + 1, some "body", []⟩

def forkBody : ParseTree :=
  ⟨"method_invocation", true, false, 6, 14, some "body",
    [⟨"identifier", true, false, 6, 7, some "name", []⟩,
      ⟨"argument_list", true, false, 7, 14, some "arguments",
        [⟨"(", false, false, 7, 8, none, []⟩, plainLambda 8 (digitBody 12),
          ⟨")", false, false, 13, 14, none, []⟩]⟩]⟩

/-- A call with a lambda in front of the creation of an object, which takes another lambda. The
first lambda holds a third one. -/
def forkCall : ParseTree :=
  ⟨"method_invocation", true, false, 0, 28, none,
    [⟨"identifier", true, false, 0, 1, some "name", []⟩,
      ⟨"argument_list", true, false, 1, 28, some "arguments",
        [⟨"(", false, false, 1, 2, none, []⟩, plainLambda 2 forkBody,
          ⟨",", false, false, 14, 15, none, []⟩,
          ⟨"object_creation_expression", true, false, 15, 27, none,
            [⟨"new", false, false, 15, 18, none, []⟩,
              ⟨"type_identifier", true, false, 19, 20, some "type", []⟩,
              ⟨"argument_list", true, false, 20, 27, some "arguments",
                [⟨"(", false, false, 20, 21, none, []⟩, plainLambda 21 (digitBody 25),
                  ⟨")", false, false, 26, 27, none, []⟩]⟩]⟩,
          ⟨")", false, false, 27, 28, none, []⟩]⟩]⟩

/-- A lambda on the first line whose body is read as a plain expression. -/
def plainLambdaNode (start bodyStart stop : Nat) (nested : List Node) : Node :=
  .bare (.ofLines 1 start 1 stop)
    (.lambda (.bare (.ofLines 1 bodyStart 1 stop) (.plainExpression nested)))

theorem expression_plainLambda {start : Nat} {body : ParseTree} {n : Node}
    (place : body.field = some "body") (form : (body.type == "block") = false)
    (read : forkReading.expression body = .ok n) :
    forkReading.expression (plainLambda start body) =
      .ok (forkReading.node (plainLambda start body) (.lambda n)) := by
  have here : (plainLambda start body).field? "body" = some body := by
    simp [plainLambda, field?, place]
  rw [expression_eq]
  show forkReading.lambdaOf (plainLambda start body) = _
  rw [lambdaOf, here]
  show (if body.type == "block" then _ else _) = _
  rw [form, read]
  rfl

theorem expression_digitBody (start : Nat) : forkReading.expression (digitBody start) =
    .ok (forkReading.node (digitBody start) (.plainExpression [])) := by
  rw [expression_eq]
  show forkReading.plainExpression (digitBody start) = _
  rw [plainExpression_eq, ← outermostBelow_eq_outermostCode]
  rfl

theorem expression_forkBody : forkReading.expression forkBody =
    .ok (.bare (.ofLines 1 7 1 14) (.plainExpression [plainLambdaNode 9 13 13 []])) := by
  have found : forkBody.outermostBelow = [plainLambda 8 (digitBody 12)] := rfl
  rw [expression_eq]
  show forkReading.plainExpression forkBody = _
  rw [plainExpression_eq, ← outermostBelow_eq_outermostCode, found, List.mapM_cons,
    expression_plainLambda rfl rfl (expression_digitBody 12)]
  rfl

theorem traversals_follow_recursion_forkCall :
    forkCall.Sequenced ∧
      forkCall.outermostBelow = [plainLambda 2 forkBody, plainLambda 21 (digitBody 25)] ∧
      (forkCall.outermostBelow.Pairwise fun u v => u.stop ≤ v.start) ∧
      forkCall.descendants.length ≤ 34 ∧
      Loop.run forkReading.visitCode 34 ⟨forkCall.namedChildren.reverse, []⟩ = .ok ⟨[],
        [plainLambdaNode 3 7 14 [plainLambdaNode 9 13 13 []], plainLambdaNode 22 26 26 []]⟩ := by
  have sequenced : forkCall.Sequenced := ⟨by decide, by decide⟩
  have found : forkCall.outermostBelow = [plainLambda 2 forkBody, plainLambda 21 (digitBody 25)] :=
    rfl
  have enough : forkCall.descendants.length ≤ 34 := by
    rw [length_descendants]
    decide
  obtain ⟨-, -, -, inOrder, -, ends⟩ := forkReading.traversals_follow_recursion forkCall
  refine ⟨sequenced, found, inOrder sequenced, enough, ?_⟩
  rw [ends 34 enough, found, List.mapM_cons, expression_plainLambda rfl rfl expression_forkBody,
    List.mapM_cons, expression_plainLambda rfl rfl (expression_digitBody 25)]
  rfl

end Fork

end Reading

end JavaCensus
