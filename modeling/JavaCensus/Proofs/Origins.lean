import JavaCensus.Proofs.SourceComments

/-!
# Origins of nodes

Every node of a unit has its origin in the parse tree: a tree at or below the one that the unit is
read from, which is read as this very node. So the type of a tree tells what its node can be.
-/
namespace JavaCensus

namespace ParseTree

theorem mem_walk_self (t : ParseTree) : t ∈ t.walk := by
  rw [walk_eq]
  exact List.mem_cons_self ..

theorem mem_walk_of_below {t c u : ParseTree} (hc : c ∈ t.children) (hu : u ∈ c.walk) :
    u ∈ t.walk := by
  rw [walk_eq]
  exact List.mem_cons_of_mem _ (List.mem_flatMap.2 ⟨c, hc, hu⟩)

theorem mem_walk_of_mem_children {t c : ParseTree} (hc : c ∈ t.children) : c ∈ t.walk :=
  mem_walk_of_below hc c.mem_walk_self

theorem mem_walk_trans {t u v : ParseTree} (hu : u ∈ t.walk) (hv : v ∈ u.walk) : v ∈ t.walk := by
  induction t using ParseTree.induction with
  | step t ih =>
    rw [walk_eq, List.mem_cons, List.mem_flatMap] at hu
    rcases hu with rfl | ⟨c, hc, hu⟩
    · exact hv
    · exact mem_walk_of_below hc (ih c hc hu)

/-- The second tree stands below the first one, at any depth. -/
def Beneath (t u : ParseTree) : Prop :=
  ∃ c ∈ t.children, u ∈ c.walk

theorem beneath_of_mem_children {t c : ParseTree} (hc : c ∈ t.children) : t.Beneath c :=
  ⟨c, hc, c.mem_walk_self⟩

theorem Beneath.mem_walk {t u : ParseTree} (h : t.Beneath u) : u ∈ t.walk := by
  obtain ⟨c, hc, hu⟩ := h
  exact mem_walk_of_below hc hu

/-! ## What a tree is read from stands below it -/

section Below

variable {t u : ParseTree}

theorem tree_mem_children_of_mem {cs : List t.Below} (all : cs ⊆ t.childrenBelow)
    (h : u ∈ cs.map (·.tree)) : u ∈ t.children := by
  rw [← map_childrenBelow]
  obtain ⟨c, hc, rfl⟩ := List.mem_map.1 h
  exact List.mem_map_of_mem (all hc)

theorem namedBelow_subset : t.namedBelow ⊆ t.childrenBelow :=
  List.filter_subset_self _

theorem mem_children_of_mem_namedChildren (h : u ∈ t.namedChildren) : u ∈ t.children :=
  List.mem_of_mem_filter h

theorem mem_children_of_field? {name : String} (h : t.field? name = some u) : u ∈ t.children :=
  List.mem_of_find?_eq_some h

theorem mem_children_of_find?_namedChildren {p : ParseTree → Bool}
    (h : t.namedChildren.find? p = some u) : u ∈ t.children :=
  mem_children_of_mem_namedChildren (List.mem_of_find?_eq_some h)

theorem mem_children_of_mem_parts (h : u ∈ t.parts.map (·.tree)) : u ∈ t.children :=
  tree_mem_children_of_mem (fun _ hc => namedBelow_subset (List.mem_of_mem_filter hc)) h

theorem beneath_of_mem_parts (h : u ∈ t.parts.map (·.tree)) : t.Beneath u :=
  beneath_of_mem_children (mem_children_of_mem_parts h)

theorem mem_children_of_mem_statementTrees {skip : List String} (h : u ∈ t.statementTrees skip) :
    u ∈ t.children :=
  List.mem_of_mem_filter h

theorem mem_children_of_mem_fieldsBelow {name : String}
    (h : u ∈ (t.fieldsBelow name).map (·.tree)) : u ∈ t.children :=
  tree_mem_children_of_mem (List.filter_subset_self _) h

theorem afterDefault?_mem {cs : List t.Below} {c : t.Below} (h : afterDefault? cs = some c) :
    c ∈ cs := by
  induction cs with
  | nil => cases h
  | cons d cs ih =>
    rw [afterDefault?] at h
    split at h
    · exact List.mem_cons_of_mem _ (List.mem_of_find?_eq_some h)
    · exact List.mem_cons_of_mem _ (ih h)

theorem mem_children_of_defaultValue? (h : t.defaultValue?.map (·.tree) = some u) :
    u ∈ t.children := by
  obtain ⟨c, hc, rfl⟩ := Option.map_eq_some_iff.1 h
  refine tree_mem_children_of_mem (List.Subset.refl t.childrenBelow) (List.mem_map_of_mem ?_)
  unfold defaultValue? at hc
  split at hc
  · rename_i d hd
    cases hc
    exact List.mem_of_find?_eq_some hd
  · exact afterDefault?_mem hc

theorem beneath_of_mem_argumentTrees (h : u ∈ t.argumentTrees) : t.Beneath u := by
  unfold argumentTrees at h
  split at h
  · cases h
  · rename_i list hlist
    exact ⟨_, mem_children_of_field? hlist, mem_walk_of_mem_children (mem_children_of_mem_parts h)⟩

theorem beneath_of_mem_resourceTrees (h : u ∈ t.resourceTrees) : t.Beneath u := by
  unfold resourceTrees at h
  split at h
  · cases h
  · rename_i specification hresources
    exact ⟨_, mem_children_of_field? hresources,
      mem_walk_of_mem_children (mem_children_of_mem_parts h)⟩

theorem beneath_of_mem_memberTrees (h : u ∈ t.memberTrees) : t.Beneath u := by
  unfold memberTrees at h
  split at h
  · cases h
  · rename_i body hbody
    exact ⟨_, mem_children_of_field? hbody, mem_walk_of_mem_children (mem_children_of_mem_parts h)⟩

theorem mem_walk_of_mem_outermostCode {stack : List ParseTree} (h : u ∈ outermostCode stack) :
    ∃ s ∈ stack, u ∈ s.walk := by
  fun_induction outermostCode stack with
  | case1 => cases h
  | case2 s rest _ ih =>
    rcases List.mem_cons.1 h with rfl | h
    · exact ⟨u, List.mem_cons_self .., u.mem_walk_self⟩
    · obtain ⟨v, hv, hu⟩ := ih h
      exact ⟨v, List.mem_cons_of_mem _ hv, hu⟩
  | case3 s rest _ ih =>
    obtain ⟨v, hv, hu⟩ := ih h
    rcases List.mem_append.1 hv with hv | hv
    · exact ⟨s, List.mem_cons_self .., mem_walk_of_below (mem_children_of_mem_namedChildren hv) hu⟩
    · exact ⟨v, List.mem_cons_of_mem _ hv, hu⟩

theorem mem_walk_of_field? {name : String} (h : t.field? name = some u) : u ∈ t.walk :=
  mem_walk_of_mem_children (mem_children_of_field? h)

theorem mem_walk_of_mem_namedChildren (h : u ∈ t.namedChildren) : u ∈ t.walk :=
  mem_walk_of_mem_children (mem_children_of_mem_namedChildren h)

theorem mem_walk_of_find?_namedChildren {p : ParseTree → Bool}
    (h : t.namedChildren.find? p = some u) : u ∈ t.walk :=
  mem_walk_of_mem_namedChildren (List.mem_of_find?_eq_some h)

theorem mem_walk_of_mem_parts {b : ParseTree} (hb : b ∈ t.walk) (h : u ∈ b.parts.map (·.tree)) :
    u ∈ t.walk :=
  mem_walk_trans hb (mem_walk_of_mem_children (mem_children_of_mem_parts h))

theorem mem_walk_of_head?_parts (h : (t.parts.map (·.tree)).head? = some u) : u ∈ t.walk :=
  mem_walk_of_mem_children (mem_children_of_mem_parts (List.mem_of_head? h))

theorem mem_walk_of_mem_statementTrees {skip : List String} (h : u ∈ t.statementTrees skip) :
    u ∈ t.walk :=
  mem_walk_of_mem_children (mem_children_of_mem_statementTrees h)

theorem mem_walk_of_mem_fieldsBelow {name : String}
    (h : u ∈ (t.fieldsBelow name).map (·.tree)) : u ∈ t.walk :=
  mem_walk_of_mem_children (mem_children_of_mem_fieldsBelow h)

theorem mem_walk_of_mem_body {p : ParseTree → Bool}
    (h : u ∈ (((t.field? "body").map (·.namedChildren)).getD []).filter p) : u ∈ t.walk := by
  have h := List.mem_of_mem_filter h
  cases hb : t.field? "body" with
  | none => simp [hb] at h
  | some b =>
    rw [hb] at h
    exact mem_walk_trans (mem_walk_of_field? hb) (mem_walk_of_mem_namedChildren h)

theorem beneath_of_mem_nestedCode (h : u ∈ outermostCode t.namedChildren) : t.Beneath u := by
  obtain ⟨s, hs, hu⟩ := mem_walk_of_mem_outermostCode h
  exact ⟨s, mem_children_of_mem_namedChildren hs, hu⟩

end Below

end ParseTree

namespace Reading

open ParseTree

variable {r : Reading}

/-- The node is read from a tree at or below the given one. -/
def ReadWithin (r : Reading) (t : ParseTree) (n : Node) : Prop :=
  ∃ role, ∃ u ∈ t.walk, r.Reads role u n

theorem ReadWithin.of_walk {t u : ParseTree} {n : Node} (h : r.ReadWithin u n)
    (hu : u ∈ t.walk) : r.ReadWithin t n := by
  obtain ⟨role, v, hv, reads⟩ := h
  exact ⟨role, v, mem_walk_trans hu hv, reads⟩

theorem Reads.within {role : Role} {t u : ParseTree} {n : Node} (h : r.Reads role u n)
    (hu : u ∈ t.walk) : r.ReadWithin t n :=
  ⟨role, u, hu, h⟩

theorem readWithin_of_pairs {role : Role} {t : ParseTree} {us : List ParseTree}
    {pairs : List (ParseTree × Node)} (trees : pairs.map (·.1) = us)
    (reads : ∀ p ∈ pairs, r.Reads role p.1 p.2) (below : ∀ {u}, u ∈ us → u ∈ t.walk) :
    ∀ n ∈ pairs.map (·.2), r.ReadWithin t n := by
  intro n hn
  obtain ⟨p, hp, rfl⟩ := List.mem_map.1 hn
  refine (reads p hp).within (below ?_)
  rw [← trees]
  exact List.mem_map_of_mem hp

theorem readWithin_of_option {role : Role} {t : ParseTree} {o : Option ParseTree}
    {pair : Option (ParseTree × Node)} (tree : pair.map (·.1) = o)
    (reads : ∀ p ∈ pair, r.Reads role p.1 p.2) (below : ∀ {u}, o = some u → u ∈ t.walk) :
    ∀ n ∈ (pair.map (·.2)).toList, r.ReadWithin t n := by
  refine forall_mem_toList_map.2 fun p hp => (reads p hp).within (below ?_)
  rw [← tree, hp]
  rfl

/-! ## The parts of a node

What is read in some capacity has parts that are read from below its tree: one lemma for each
capacity in which trees are read. -/

namespace Reads

variable {t : ParseTree} {n : Node}

/-- A switch takes its selector from a field and its entries from its body. -/
theorem switch_within {condition body : ParseTree} {selector : Node}
    {entries : List (ParseTree × Node)} (hcondition : t.field? "condition" = some condition)
    (selects : r.Reads .expression condition selector) (hbody : t.field? "body" = some body)
    (trees : ∀ e ∈ entries, e.1 ∈ body.namedChildren)
    (reads : ∀ e ∈ entries, r.Reads .entry e.1 e.2) :
    ∀ c ∈ selector :: entries.map (·.2), r.ReadWithin t c := by
  refine List.forall_mem_cons.2 ⟨selects.within (mem_walk_of_field? hcondition), ?_⟩
  refine readWithin_of_pairs rfl reads fun hu => ?_
  obtain ⟨e, he, rfl⟩ := List.mem_map.1 hu
  exact mem_walk_trans (mem_walk_of_field? hbody) (mem_walk_of_mem_namedChildren (trees e he))

theorem parts_expression (h : r.Reads .expression t n) : ∀ c ∈ n.children, r.ReadWithin t c := by
  cases h with
  | lambdaBlock _ body _ reads | lambdaExpression _ body _ reads =>
    exact List.forall_mem_singleton.2 (reads.within (mem_walk_of_field? body))
  | switchExpression _ condition selects body trees reads =>
    exact switch_within condition selects body trees reads
  | creation _ body _ argumentTrees passes memberTrees declares =>
    have arguments := readWithin_of_pairs argumentTrees passes fun h =>
      (beneath_of_mem_argumentTrees h).mem_walk
    have members := readWithin_of_pairs memberTrees declares
      (mem_walk_of_mem_parts (mem_walk_of_find?_namedChildren body))
    exact List.forall_mem_append.2 ⟨arguments, members⟩
  | plain _ trees reads =>
    exact readWithin_of_pairs trees reads fun h => (beneath_of_mem_nestedCode h).mem_walk

theorem parts_block (h : r.Reads .block t n) : ∀ c ∈ n.children, r.ReadWithin t c := by
  cases h with
  | block trees reads => exact readWithin_of_pairs trees reads mem_walk_of_mem_statementTrees

/-- The labels of an entry are read from the parts of a label below its tree. -/
theorem labels_within {label : ParseTree} {labels : List (ParseTree × Node)}
    (among : label ∈ t.namedChildren) (labelTrees : labels.map (·.1) = label.parts.map (·.tree))
    (selects : ∀ l ∈ labels, r.Reads .expression l.1 l.2) :
    ∀ c ∈ labels.map (·.2), r.ReadWithin t c :=
  readWithin_of_pairs labelTrees selects
    (mem_walk_of_mem_parts (mem_walk_of_mem_namedChildren among))

theorem parts_entry (h : r.Reads .entry t n) : ∀ c ∈ n.children, r.ReadWithin t c := by
  cases h with
  | rule _ found labelTrees selects trees reads =>
    have among := List.mem_of_find?_eq_some found
    exact List.forall_mem_append.2 ⟨labels_within among labelTrees selects,
      readWithin_of_pairs trees reads mem_walk_of_mem_statementTrees⟩
  | groupLabel _ among labelTrees selects =>
    exact List.forall_mem_append.2
      ⟨labels_within (List.mem_of_mem_filter among) labelTrees selects, List.forall_mem_nil _⟩
  | lastLabel _ last labelTrees selects trees reads =>
    have among := List.mem_of_mem_filter (List.mem_of_getLast? last)
    exact List.forall_mem_append.2 ⟨labels_within among labelTrees selects,
      readWithin_of_pairs trees reads mem_walk_of_mem_statementTrees⟩

theorem parts_type (h : r.Reads .type t n) : ∀ c ∈ n.children, r.ReadWithin t c := by
  cases h with
  | typeDeclaration _ _ trees reads =>
    exact readWithin_of_pairs trees reads fun h => (beneath_of_mem_memberTrees h).mem_walk
  | enumDeclaration _ _ constantTrees lists memberTrees reads =>
    have constants := readWithin_of_pairs constantTrees lists mem_walk_of_mem_body
    refine List.forall_mem_append.2 ⟨constants, readWithin_of_pairs memberTrees reads fun h => ?_⟩
    obtain ⟨c, hc, h⟩ := List.mem_flatMap.1 h
    exact mem_walk_of_mem_parts (mem_walk_of_mem_body hc) h

theorem parts_constant (h : r.Reads .constant t n) : ∀ c ∈ n.children, r.ReadWithin t c := by
  cases h with
  | enumConstant _ _ trees reads =>
    exact List.forall_mem_append.2 ⟨readWithin_of_pairs trees reads fun h =>
      (beneath_of_mem_argumentTrees h).mem_walk, List.forall_mem_nil _⟩
  | bodiedConstant _ body trees passes memberTrees reads =>
    have arguments := readWithin_of_pairs trees passes fun h =>
      (beneath_of_mem_argumentTrees h).mem_walk
    have members := readWithin_of_pairs memberTrees reads
      (mem_walk_of_mem_parts (mem_walk_of_field? body))
    exact List.forall_mem_append.2 ⟨arguments, members⟩

theorem parts_member (h : r.Reads .member t n) : ∀ c ∈ n.children, r.ReadWithin t c := by
  cases h with
  | memberType _ reads => exact reads.parts_type
  | fieldDeclaration _ _ trees reads =>
    exact readWithin_of_pairs trees reads mem_walk_of_mem_fieldsBelow
  | method _ _ tree reads => exact readWithin_of_option tree reads mem_walk_of_field?
  | constructor _ _ body reads =>
    exact List.forall_mem_singleton.2 (reads.within (mem_walk_of_field? body))
  | staticInitializer _ body reads =>
    exact List.forall_mem_singleton.2 (reads.within (mem_walk_of_find?_namedChildren body))
  | instanceInitializer _ reads =>
    exact List.forall_mem_singleton.2 (reads.within (mem_walk_self _))
  | annotationMember _ _ _ tree reads =>
    exact readWithin_of_option tree reads fun h =>
      mem_walk_of_mem_children (mem_children_of_defaultValue? h)

/-- What a loop starts with, declarations or expressions, is read from its fields. -/
theorem starts_within {init : List (ParseTree × Node)}
    (initTrees : init.map (·.1) = (t.fieldsBelow "init").map (·.tree))
    (starts : ∀ i ∈ init, r.Reads
      (if i.1.type == "local_variable_declaration" then .statement else .expression) i.1 i.2) :
    ∀ c ∈ init.map (·.2), r.ReadWithin t c := by
  intro n hn
  obtain ⟨i, hi, rfl⟩ := List.mem_map.1 hn
  have start : i.1 ∈ init.map (·.1) := List.mem_map_of_mem hi
  rw [initTrees] at start
  exact (starts i hi).within (mem_walk_of_mem_fieldsBelow start)

theorem mem_walk_of_finally {b : ParseTree}
    (h : ((t.namedChildren.filter (·.type == "finally_clause")).getLast?.bind
      (·.namedChildren.find? (·.type == "block"))) = some b) : b ∈ t.walk := by
  obtain ⟨clause, last, block⟩ := Option.bind_eq_some_iff.1 h
  have among := List.mem_of_mem_filter (List.mem_of_getLast? last)
  exact mem_walk_trans (mem_walk_of_mem_namedChildren among) (mem_walk_of_find?_namedChildren block)

theorem parts_statement (h : r.Reads .statement t n) : ∀ c ∈ n.children, r.ReadWithin t c := by
  cases h with
  | localType _ reads => exact reads.parts_type
  | localBlock _ reads => exact reads.parts_block
  | emptyStatement | breakStatement | continueStatement => exact List.forall_mem_nil _
  | localDeclaration _ _ trees reads =>
    exact readWithin_of_pairs trees reads mem_walk_of_mem_fieldsBelow
  | labeledStatement _ last reads =>
    exact List.forall_mem_singleton.2
      (reads.within (mem_walk_of_mem_children (List.mem_of_getLast? last)))
  | ifStatement _ test tests first reads second otherwise =>
    exact List.forall_mem_cons.2 ⟨tests.within (mem_walk_of_field? test), List.forall_mem_cons.2
      ⟨reads.within (mem_walk_of_field? first),
        readWithin_of_option second otherwise mem_walk_of_field?⟩⟩
  | whileStatement _ first opens second closes | doStatement _ first opens second closes
  | forEachStatement _ first opens second closes =>
    exact List.forall_mem_cons.2 ⟨opens.within (mem_walk_of_field? first),
      List.forall_mem_singleton.2 (closes.within (mem_walk_of_field? second))⟩
  | forStatement _ initTrees starts inner reads test tests updateTrees goesOn =>
    exact List.forall_mem_append.2 ⟨List.forall_mem_append.2 ⟨List.forall_mem_append.2
      ⟨starts_within initTrees starts, readWithin_of_option test tests mem_walk_of_field?⟩,
      readWithin_of_pairs updateTrees goesOn mem_walk_of_mem_fieldsBelow⟩,
      List.forall_mem_singleton.2 (reads.within (mem_walk_of_field? inner))⟩
  | synchronizedStatement _ lock locks inner reads =>
    exact List.forall_mem_cons.2 ⟨locks.within (mem_walk_of_head?_parts lock),
      List.forall_mem_singleton.2 (reads.within (mem_walk_of_field? inner))⟩
  | tryStatement _ resourceTrees opens inner reads catchTrees handles lastTree ends =>
    have resources := readWithin_of_pairs resourceTrees opens fun h =>
      (beneath_of_mem_resourceTrees h).mem_walk
    have clauses := readWithin_of_pairs catchTrees handles fun h =>
      mem_walk_of_mem_namedChildren (List.mem_of_mem_filter h)
    exact List.forall_mem_append.2 ⟨List.forall_mem_append.2 ⟨List.forall_mem_append.2
      ⟨resources, List.forall_mem_singleton.2 (reads.within (mem_walk_of_field? inner))⟩, clauses⟩,
      readWithin_of_option lastTree ends mem_walk_of_finally⟩
  | switchStatement _ condition selects body trees reads =>
    exact switch_within condition selects body trees reads
  | expressionStatement _ only reads | yieldStatement _ only reads | throwStatement _ only reads =>
    exact List.forall_mem_singleton.2 (reads.within (mem_walk_of_head?_parts only))
  | returnStatement _ tree reads => exact readWithin_of_option tree reads mem_walk_of_head?_parts
  | assertStatement _ check reads second explains =>
    exact List.forall_mem_cons.2 ⟨reads.within (mem_walk_of_head?_parts check),
      readWithin_of_option second explains fun h =>
        mem_walk_of_mem_children (mem_children_of_mem_parts (List.mem_of_getElem? h))⟩
  | constructorCall _ trees reads =>
    exact readWithin_of_pairs trees reads fun h => (beneath_of_mem_argumentTrees h).mem_walk

/-- The parts of a node are read from trees at or below the tree of the node. -/
theorem parts_within {role : Role} (h : r.Reads role t n) : ∀ c ∈ n.children, r.ReadWithin t c := by
  cases role with
  | expression => exact h.parts_expression
  | statement => exact h.parts_statement
  | block => exact h.parts_block
  | entry => exact h.parts_entry
  | type => exact h.parts_type
  | constant => exact h.parts_constant
  | member => exact h.parts_member
  | declarator =>
    cases h with
    | declarator _ tree reads => exact readWithin_of_option tree reads mem_walk_of_field?
  | resource =>
    cases h with
    | resource tree reads => exact readWithin_of_option tree reads mem_walk_of_field?
  | catchClause =>
    cases h with
    | catchClause body reads =>
      exact List.forall_mem_singleton.2 (reads.within (mem_walk_of_field? body))

end Reads

/-- Every node of what a tree is read as is itself read from a tree at or below that tree. -/
theorem Reads.origin {role : Role} {t : ParseTree} {n k : Node} (h : r.Reads role t n)
    (hk : k ∈ n.walk) : r.ReadWithin t k := by
  induction n using Node.induction generalizing role t with
  | step n ih =>
    rw [Node.walk_eq, List.mem_cons, List.mem_flatMap] at hk
    rcases hk with rfl | ⟨c, hc, hk⟩
    · exact h.within t.mem_walk_self
    · obtain ⟨role, u, hu, reads⟩ := h.parts_within c hc
      exact (ih c hc reads hk).of_walk hu

end Reading

end JavaCensus
