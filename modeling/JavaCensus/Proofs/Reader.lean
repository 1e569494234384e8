import JavaCensus.Proofs.Reads

/-!
# The reader follows the rules

Whatever the reader makes of a tree is what the rules allow. The functions of the reader call each
other on smaller trees, and on the same tree only in a fixed order, so each one is treated once for
a tree below which all is known.
-/
namespace JavaCensus

/-- The node that a child of the root is read as. -/
def TopLevel.node : TopLevel → Node
  | .package n | .import n | .module n | .type n => n

namespace Reading

open ParseTree

variable {r : Reading}

/-- The rules are followed below a weight. -/
structure FollowsBelow (r : Reading) (k : Nat) : Prop where
  expression : ∀ {t n}, t.weight < k → r.expression t = .ok n → r.Reads .expression t n
  statement : ∀ {t n}, t.weight < k → r.statement t = .ok n → r.Reads .statement t n
  member : ∀ {components t n}, t.weight < k → r.member components t = .ok n →
    r.Reads .member t n

theorem FollowsBelow.mono {k m : Nat} (h : FollowsBelow r k) (le : m ≤ k) : FollowsBelow r m where
  expression lt := h.expression (Nat.lt_of_lt_of_le lt le)
  statement lt := h.statement (Nat.lt_of_lt_of_le lt le)
  member lt := h.member (Nat.lt_of_lt_of_le lt le)

/-- Reading the parts of a tree one by one pairs them with what they are read as. -/
theorem readings_of_mapM {α : Type} {t : ParseTree} {f : t.Below → Read α} {parts : List t.Below}
    {as : List α} (h : parts.mapM f = .ok as) :
    ∃ pairs : List (ParseTree × α), pairs.map (·.1) = parts.map (·.tree) ∧
      pairs.map (·.2) = as ∧ ∀ p ∈ pairs, ∃ c ∈ parts, c.tree = p.1 ∧ f c = .ok p.2 := by
  obtain ⟨pairs, rfl, rfl, hpairs⟩ := mapM_eq_ok h
  refine ⟨pairs.map fun p => (p.1.tree, p.2), by simp, by simp, fun p hp => ?_⟩
  obtain ⟨q, hq, rfl⟩ := List.mem_map.1 hp
  exact ⟨q.1, List.mem_map_of_mem hq, rfl, hpairs q hq⟩

/-- Parts that are read by one function of the reader. -/
theorem reads_of_mapM {role : Role} {t : ParseTree} {f : ParseTree → Read Node}
    {parts : List t.Below} {ns : List Node}
    (ih : ∀ {c n}, c.weight < t.weight → f c = .ok n → r.Reads role c n)
    (h : (parts.mapM fun c => f c.tree) = .ok ns) :
    ∃ pairs : List (ParseTree × Node), pairs.map (·.1) = parts.map (·.tree) ∧
      pairs.map (·.2) = ns ∧ ∀ p ∈ pairs, r.Reads role p.1 p.2 := by
  obtain ⟨pairs, trees, nodes, reads⟩ := readings_of_mapM h
  refine ⟨pairs, trees, nodes, fun p hp => ?_⟩
  obtain ⟨c, -, eq, hc⟩ := reads p hp
  rw [← eq]
  exact ih c.lt hc

theorem field?_of_fieldBelow? {t : ParseTree} {field : String} {c : t.Below}
    (h : t.fieldBelow? field = some c) : t.field? field = some c.tree := by
  rw [← field?_eq, h]
  rfl

theorem field?_of_fieldBelow?_eq_none {t : ParseTree} {field : String}
    (h : t.fieldBelow? field = none) : t.field? field = none := by
  rw [← field?_eq, h]
  rfl

theorem find?_of_namedOfType? {t : ParseTree} {type : String} {c : t.Below}
    (h : t.namedOfType? type = some c) :
    t.namedChildren.find? (·.type == type) = some c.tree := by
  rw [← namedChildren_eq, List.find?_map]
  exact congrArg (Option.map (·.tree)) h

theorem find?_of_namedOfType?_eq_none {t : ParseTree} {type : String}
    (h : t.namedOfType? type = none) : t.namedChildren.find? (·.type == type) = none := by
  rw [← namedChildren_eq, List.find?_map]
  exact congrArg (Option.map (·.tree)) h

theorem not_reject {α : Type} {t : ParseTree} {cause : Rejection} {a : α} :
    ¬r.reject t cause = .ok a := by
  intro h
  cases h

/-! ## Parts -/

section Parts

variable {t : ParseTree}

theorem plainExpression_reads {n : Node} (ih : FollowsBelow r t.weight) (form : t.holdsCode = false)
    (h : r.plainExpression t = .ok n) : r.Reads .expression t n := by
  rw [plainExpression, bind_eq_ok] at h
  obtain ⟨ns, hns, h⟩ := h
  obtain rfl := pure_eq_ok.1 h
  obtain ⟨nested, trees, rfl, reads⟩ := reads_of_mapM ih.expression hns
  refine .plain form ?_ reads
  rw [trees]
  simp [nestedCode]

theorem arguments_reads {ns : List Node} (ih : FollowsBelow r t.weight)
    (h : r.arguments t = .ok ns) :
    ∃ arguments : List (ParseTree × Node), arguments.map (·.1) = t.argumentTrees ∧
      arguments.map (·.2) = ns ∧ ∀ a ∈ arguments, r.Reads .expression a.1 a.2 := by
  rw [Reading.arguments] at h
  split at h
  · rename_i hfield
    cases h
    exact ⟨[], by simp [argumentTrees, field?_of_fieldBelow?_eq_none hfield], rfl,
      List.forall_mem_nil _⟩
  · rename_i list hfield
    obtain ⟨arguments, trees, rfl, reads⟩ :=
      reads_of_mapM (ih.mono (Nat.le_of_lt list.lt)).expression h
    refine ⟨arguments, ?_, rfl, reads⟩
    rw [trees, argumentTrees, field?_of_fieldBelow? hfield]

theorem statementList_reads {skip : List String} {ns : List Node} (ih : FollowsBelow r t.weight)
    (h : r.statementList skip t = .ok ns) :
    ∃ statements : List (ParseTree × Node),
      statements.map (·.1) = t.statementTrees skip ∧
      statements.map (·.2) = ns ∧ ∀ s ∈ statements, r.Reads .statement s.1 s.2 := by
  rw [statementList] at h
  obtain ⟨statements, trees, read, reads⟩ := reads_of_mapM ih.statement h
  exact ⟨statements, trees.trans (statementParts_eq t skip), read, reads⟩

theorem block_reads {n : Node} (ih : FollowsBelow r t.weight) (h : r.block t = .ok n) :
    r.Reads .block t n := by
  rw [block, bind_eq_ok] at h
  obtain ⟨ns, hns, h⟩ := h
  obtain rfl := pure_eq_ok.1 h
  obtain ⟨statements, trees, rfl, reads⟩ := statementList_reads ih hns
  exact .block trees reads

theorem FollowsBelow.block {k : Nat} (ih : FollowsBelow r k) {n : Node} (lt : t.weight < k)
    (h : r.block t = .ok n) : r.Reads .block t n :=
  block_reads (ih.mono (Nat.le_of_lt lt)) h

/-- The reader takes a field that must be there, reads it and goes on. -/
theorem bind_field {α : Type} {role : Role} {field : String} {f : ParseTree → Read Node}
    {k : Node → Read α} {a : α}
    (ih : ∀ {c n}, c.weight < t.weight → f c = .ok n → r.Reads role c n)
    (h : (required (t.fieldBelow? field) >>= fun c => f c.tree >>= k) = .ok a) :
    ∃ c n, t.field? field = some c ∧ r.Reads role c n ∧ k n = .ok a := by
  obtain ⟨c, hc, h⟩ := bind_eq_ok.1 h
  obtain ⟨n, hn, h⟩ := bind_eq_ok.1 h
  exact ⟨c.tree, n, field?_of_fieldBelow? (required_eq_ok.1 hc), ih c.lt hn, h⟩

theorem members_reads {components : List Parameter} {ns : List Node}
    (ih : FollowsBelow r t.weight) (h : r.members components t = .ok ns) :
    ∃ members : List (ParseTree × Node), members.map (·.1) = t.parts.map (·.tree) ∧
      members.map (·.2) = ns ∧ ∀ m ∈ members, r.Reads .member m.1 m.2 := by
  rw [Reading.members] at h
  exact reads_of_mapM ih.member h

/-- A part that may be there, and what the node is built from. -/
theorem optional_reads {β : Type} {role : Role} {f : ParseTree → Read Node} {o : Option t.Below}
    {n : β} (b : Option Node → β)
    (ih : ∀ {c n}, c.weight < t.weight → f c = .ok n → r.Reads role c n)
    (absent : o = none → b none = n)
    (present : ∀ c, o = some c → ∃ m, f c.tree = .ok m ∧ b (some m) = n) :
    ∃ part : Option (ParseTree × Node), part.map (·.1) = o.map (·.tree) ∧
      (∀ p ∈ part, r.Reads role p.1 p.2) ∧ b (part.map (·.2)) = n := by
  cases o with
  | none => exact ⟨none, rfl, fun _ h => absurd h (Option.not_mem_none _), absent rfl⟩
  | some c =>
    obtain ⟨m, hm, hn⟩ := present c rfl
    refine ⟨some (c.tree, m), rfl, fun p hp => ?_, hn⟩
    cases hp
    exact ih c.lt hm

theorem declarators_reads {ns : List Node} (ih : FollowsBelow r t.weight)
    (h : r.declarators t = .ok ns) :
    ∃ declarators : List (ParseTree × Node),
      declarators.map (·.1) = (t.fieldsBelow "declarator").map (·.tree) ∧
      declarators.map (·.2) = ns ∧ ∀ d ∈ declarators, r.Reads .declarator d.1 d.2 := by
  rw [declarators] at h
  obtain ⟨pairs, trees, rfl, reads⟩ := readings_of_mapM h
  refine ⟨pairs, trees, rfl, fun d hd => ?_⟩
  obtain ⟨c, -, eq, hd⟩ := reads d hd
  obtain ⟨name, hname, hd⟩ := bind_eq_ok.1 hd
  obtain ⟨value, tree, reads, hn⟩ := optional_reads (o := c.tree.fieldBelow? "value") (n := d.2)
    (fun o => r.node c.tree (.variableDeclarator name o)) (ih.mono (Nat.le_of_lt c.lt)).expression
    (fun hv => by simpa only [hv, pure_eq_ok] using hd)
    (fun v hv => by simpa only [hv, bind_eq_ok, pure_eq_ok] using hd)
  rw [← eq, ← hn]
  exact .declarator hname (tree.trans (field?_eq ..)) reads

/-! ## Switches -/

/-- The entry of a label, with its span and its statements. -/
theorem switchEntry_reads {label : ParseTree} {span : Span} {statements : List Node} {n : Node}
    (ih : FollowsBelow r label.weight) (h : r.switchEntry label span statements = .ok n) :
    ∃ labels : List (ParseTree × Node), labels.map (·.1) = label.parts.map (·.tree) ∧
      (∀ l ∈ labels, r.Reads .expression l.1 l.2) ∧
      n = .bare span (.switchEntry (labels.map (·.2)) statements
        (label.children.any (·.type == "default"))) := by
  rw [switchEntry, bind_eq_ok] at h
  obtain ⟨ns, hns, h⟩ := h
  obtain rfl := pure_eq_ok.1 h
  obtain ⟨labels, trees, rfl, reads⟩ := reads_of_mapM ih.expression hns
  exact ⟨labels, trees, reads, rfl⟩

/-- The labels of a group become entries of the group, and the last one takes the statements. -/
theorem groupEntries_reads {statements : List (ParseTree × Node)} {labels : List t.Below}
    {ns : List Node} (ih : FollowsBelow r t.weight) (type : t.type = "switch_block_statement_group")
    (all : labels <:+ t.namedBelow.filter (·.tree.type == "switch_label"))
    (trees : statements.map (·.1) = t.entryTrees)
    (reads : ∀ s ∈ statements, r.Reads .statement s.1 s.2)
    (h : r.groupEntries t (statements.map (·.2)) labels = .ok ns) :
    ∀ n ∈ ns, r.Reads .entry t n := by
  have labelTrees : (t.namedBelow.filter (·.tree.type == "switch_label")).map (·.tree) =
      t.namedChildren.filter (·.type == "switch_label") := by
    rw [← namedChildren_eq, List.filter_map]
    rfl
  induction labels generalizing ns with
  | nil =>
    rw [groupEntries] at h
    cases h
    exact List.forall_mem_nil _
  | cons label rest next =>
    have rests := (List.suffix_cons label rest).trans all
    cases rest with
    | nil =>
      rw [groupEntries, bind_eq_ok] at h
      obtain ⟨n, hn, h⟩ := h
      obtain rfl := pure_eq_ok.1 h
      obtain ⟨labels, labelsTrees, selects, rfl⟩ :=
        switchEntry_reads (ih.mono (Nat.le_of_lt label.lt)) hn
      intro m hm
      obtain rfl := List.mem_singleton.1 hm
      refine .lastLabel type ?_ labelsTrees selects trees reads
      obtain ⟨before, hbefore⟩ := all
      rw [← labelTrees, ← hbefore]
      simp
    | cons other rest =>
      rw [groupEntries, bind_eq_ok] at h
      · obtain ⟨n, hn, h⟩ := h
        obtain ⟨ms, hms, h⟩ := bind_eq_ok.1 h
        obtain rfl := pure_eq_ok.1 h
        obtain ⟨labels, labelsTrees, selects, rfl⟩ :=
          switchEntry_reads (ih.mono (Nat.le_of_lt label.lt)) hn
        intro m hm
        rcases List.mem_cons.1 hm with rfl | hm
        · refine .groupLabel type ?_ labelsTrees selects
          rw [← labelTrees]
          exact List.mem_map_of_mem (all.subset (List.mem_cons_self ..))
        · exact next rests hms m hm
      · exact List.cons_ne_nil _ _

/-- The entries that one part of a switch body becomes. -/
theorem entriesOf_reads {c : t.Below} {ns : List Node} (ih : FollowsBelow r t.weight)
    (h : (match c.tree.type with
      | "switch_block_statement_group" => do
        let statements ← r.statementList [":", "->"] c.tree
        r.groupEntries c.tree statements (c.tree.namedBelow.filter (·.tree.type == "switch_label"))
      | "switch_rule" => do
        let label ← found (c.tree.namedOfType? "switch_label")
        let statements ← r.statementList [":", "->"] c.tree
        return [← r.switchEntry label.tree (r.source.span c.tree) statements]
      | _ => return []) = (.ok ns : Read (List Node))) :
    ∀ n ∈ ns, r.Reads .entry c.tree n := by
  have inside := ih.mono (Nat.le_of_lt c.lt)
  split at h
  · rename_i type
    obtain ⟨ms, hms, h⟩ := bind_eq_ok.1 h
    obtain ⟨statements, trees, rfl, reads⟩ := statementList_reads inside hms
    exact groupEntries_reads inside type (List.suffix_refl _) trees reads h
  · rename_i type
    obtain ⟨label, hlabel, h⟩ := bind_eq_ok.1 h
    obtain ⟨ms, hms, h⟩ := bind_eq_ok.1 h
    obtain ⟨entry, hentry, h⟩ := bind_eq_ok.1 h
    obtain rfl := pure_eq_ok.1 h
    obtain ⟨statements, trees, rfl, reads⟩ := statementList_reads inside hms
    obtain ⟨labels, labelTrees, selects, rfl⟩ :=
      switchEntry_reads (inside.mono (Nat.le_of_lt label.lt)) hentry
    intro n hn
    obtain rfl := List.mem_singleton.1 hn
    exact .rule type (find?_of_namedOfType? (found_eq_ok.1 hlabel)) labelTrees selects trees reads
  · obtain rfl := pure_eq_ok.1 h
    exact List.forall_mem_nil _

theorem switchEntries_reads {ns : List Node} (ih : FollowsBelow r t.weight)
    (h : r.switchEntries t = .ok ns) :
    ∃ entries : List (ParseTree × Node), entries.map (·.2) = ns ∧
      (∀ e ∈ entries, e.1 ∈ t.namedChildren) ∧ ∀ e ∈ entries, r.Reads .entry e.1 e.2 := by
  rw [switchEntries, bind_eq_ok] at h
  obtain ⟨lists, hlists, h⟩ := h
  obtain rfl := pure_eq_ok.1 h
  obtain ⟨pairs, trees, rfl, reads⟩ := readings_of_mapM hlists
  refine ⟨pairs.flatMap fun p => p.2.map (p.1, ·), ?_, ?_, ?_⟩
  · simp [List.flatMap_def, Function.comp_def]
  · intro e he
    obtain ⟨p, hp, he⟩ := List.mem_flatMap.1 he
    obtain ⟨n, -, rfl⟩ := List.mem_map.1 he
    rw [← namedChildren_eq, ← trees]
    exact List.mem_map_of_mem hp
  · intro e he
    obtain ⟨p, hp, he⟩ := List.mem_flatMap.1 he
    obtain ⟨n, hn, rfl⟩ := List.mem_map.1 he
    obtain ⟨c, -, eq, hc⟩ := reads p hp
    rw [← eq]
    exact entriesOf_reads ih hc n hn

/-- The reader takes a switch apart, into its selector and its entries, and goes on. -/
theorem bind_switch {α : Type} {k : Node → List Node → Read α} {a : α}
    (ih : FollowsBelow r t.weight)
    (h : (do
      let condition ← required (t.fieldBelow? "condition")
      let selector ← r.expression condition.tree
      let body ← required (t.fieldBelow? "body")
      let entries ← r.switchEntries body.tree
      k selector entries) = .ok a) :
    ∃ c selector b, ∃ entries : List (ParseTree × Node), t.field? "condition" = some c ∧
      r.Reads .expression c selector ∧ t.field? "body" = some b ∧
      (∀ e ∈ entries, e.1 ∈ b.namedChildren) ∧ (∀ e ∈ entries, r.Reads .entry e.1 e.2) ∧
      k selector (entries.map (·.2)) = .ok a := by
  obtain ⟨c, selector, condition, selects, h⟩ := bind_field ih.expression h
  obtain ⟨b, hb, h⟩ := bind_eq_ok.1 h
  obtain ⟨ns, hns, h⟩ := bind_eq_ok.1 h
  obtain ⟨entries, rfl, trees, reads⟩ := switchEntries_reads (ih.mono (Nat.le_of_lt b.lt)) hns
  exact ⟨c, selector, b.tree, entries, condition, selects,
    field?_of_fieldBelow? (required_eq_ok.1 hb), trees, reads, h⟩

/-! ## Expressions -/

theorem holdsCode_of_namedOfType?_eq_none (type : t.type = "object_creation_expression")
    (none : t.namedOfType? "class_body" = none) : t.holdsCode = false := by
  have absent := List.find?_eq_none.1 (find?_of_namedOfType?_eq_none none)
  have any : (t.namedChildren.any fun c => c.type == "class_body") = false := by
    rw [List.any_eq_false]
    exact absent
  rw [holdsCode, type, any]
  rfl

theorem expression_reads {n : Node} (ih : FollowsBelow r t.weight) (h : r.expression t = .ok n) :
    r.Reads .expression t n := by
  rw [expression] at h
  split at h
  · rename_i type
    obtain ⟨body, hbody, h⟩ := bind_eq_ok.1 h
    have hbody := field?_of_fieldBelow? (required_eq_ok.1 hbody)
    have inside := ih.mono (Nat.le_of_lt body.lt)
    split at h <;> rename_i form <;> obtain ⟨m, hm, h⟩ := bind_eq_ok.1 h <;>
      obtain rfl := pure_eq_ok.1 h
    · exact .lambdaBlock type hbody (beq_iff_eq.1 form) (block_reads inside hm)
    · exact .lambdaExpression type hbody (fun eq => form (beq_iff_eq.2 eq))
        (ih.expression body.lt hm)
  · rename_i type
    obtain ⟨_, _, _, _, condition, selects, body, trees, reads, h⟩ := bind_switch ih h
    obtain rfl := pure_eq_ok.1 h
    exact .switchExpression type condition selects body trees reads
  · rename_i type
    split at h
    · rename_i body hbody
      obtain ⟨name, hname, h⟩ := bind_eq_ok.1 h
      obtain ⟨as, has, h⟩ := bind_eq_ok.1 h
      obtain ⟨ms, hms, h⟩ := bind_eq_ok.1 h
      obtain rfl := pure_eq_ok.1 h
      obtain ⟨arguments, argumentTrees, rfl, passes⟩ := arguments_reads ih has
      obtain ⟨members, memberTrees, rfl, declares⟩ :=
        members_reads (ih.mono (Nat.le_of_lt body.lt)) hms
      exact .creation type (find?_of_namedOfType? hbody) hname argumentTrees passes memberTrees
        declares
    · rename_i none
      exact plainExpression_reads ih (holdsCode_of_namedOfType?_eq_none type none) h
  · rename_i noLambda noSwitch noCreation
    refine plainExpression_reads ih ?_ h
    rw [holdsCode, beq_false_of_ne noLambda, beq_false_of_ne noSwitch, beq_false_of_ne noCreation]
    rfl

/-! ## Statements -/

theorem ifStatement_reads {n : Node} (ih : FollowsBelow r t.weight) (type : t.type = "if_statement")
    (h : r.ifStatement t = .ok n) : r.Reads .statement t n := by
  rw [Reading.ifStatement] at h
  obtain ⟨_, condition, test, tests, h⟩ := bind_field ih.expression h
  obtain ⟨_, consequence, first, reads, h⟩ := bind_field ih.statement h
  obtain ⟨alternative, tree, otherwise, rfl⟩ := optional_reads (o := t.fieldBelow? "alternative")
    (fun o => r.node t (.ifStatement condition consequence o)) ih.statement
    (fun hv => by simpa only [hv, pure_eq_ok] using h)
    (fun v hv => by simpa only [hv, bind_eq_ok, pure_eq_ok] using h)
  exact .ifStatement type test tests first reads (tree.trans (field?_eq ..)) otherwise

theorem forStatement_reads {n : Node} (ih : FollowsBelow r t.weight)
    (type : t.type = "for_statement") (h : r.forStatement t = .ok n) : r.Reads .statement t n := by
  rw [Reading.forStatement] at h
  obtain ⟨is, his, h⟩ := bind_eq_ok.1 h
  obtain ⟨_, body, inner, reads, h⟩ := bind_field ih.statement h
  obtain ⟨test, us, absent, present, hus, rfl⟩ : ∃ test us,
      (t.fieldBelow? "condition" = none → none = test) ∧
      (∀ c, t.fieldBelow? "condition" = some c → ∃ m, r.expression c.tree = .ok m ∧ some m = test) ∧
      ((t.fieldsBelow "update").mapM fun c => r.expression c.tree) = .ok us ∧
      r.node t (.forStatement is test us body) = n := by
    cases hv : t.fieldBelow? "condition" with
    | none =>
      simp only [hv, bind_eq_ok, pure_eq_ok] at h
      obtain ⟨_, rfl, us, hus, hn⟩ := h
      exact ⟨none, us, fun _ => rfl, (fun _ h => by cases h), hus, hn⟩
    | some c =>
      simp only [hv, bind_eq_ok, map_eq_ok, pure_eq_ok] at h
      obtain ⟨_, ⟨m, hm, rfl⟩, us, hus, hn⟩ := h
      refine ⟨some m, us, (fun h => by cases h), fun _ eq => ?_, hus, hn⟩
      cases eq
      exact ⟨m, hm, rfl⟩
  obtain ⟨init, initTrees, rfl, starts⟩ := readings_of_mapM his
  obtain ⟨update, updateTrees, rfl, goesOn⟩ := reads_of_mapM ih.expression hus
  obtain ⟨condition, tree, tests, rfl⟩ := optional_reads (fun o => o) ih.expression absent present
  refine .forStatement type initTrees (fun i hi => ?_) inner reads (tree.trans (field?_eq ..)) tests
    updateTrees goesOn
  obtain ⟨c, -, eq, hi⟩ := starts i hi
  rw [← eq]
  split at hi <;> rename_i form
  · rw [if_pos form]
    exact ih.statement c.lt hi
  · rw [if_neg form]
    exact ih.expression c.lt hi

theorem resource_reads {n : Node} (ih : FollowsBelow r t.weight)
    (absent : t.fieldBelow? "value" = none →
      r.node t (.resource (r.text ((t.field? "name").getD t)) none) = n)
    (present : ∀ value, t.fieldBelow? "value" = some value →
      ∃ m, r.expression value.tree = .ok m ∧
        r.node t (.resource (r.text ((t.field? "name").getD t)) (some m)) = n) :
    r.Reads .resource t n := by
  obtain ⟨value, tree, reads, rfl⟩ := optional_reads
    (fun o => r.node t (.resource (r.text ((t.field? "name").getD t)) o)) ih.expression absent
    present
  exact .resource (tree.trans (field?_eq ..)) reads

/-- Of the parts of a tree, those that are read as something of one sort. -/
theorem select_readings {α β : Type} {f : α → Option β} {p : ParseTree → Bool}
    {pairs : List (ParseTree × Option α)} (h : ∀ q ∈ pairs, (q.2.bind f).isSome = p q.1) :
    (pairs.filterMap fun q => (q.2.bind f).map (q.1, ·)).map (·.1) =
        (pairs.map (·.1)).filter p ∧
      (pairs.filterMap fun q => (q.2.bind f).map (q.1, ·)).map (·.2) =
        ((pairs.map (·.2)).filterMap id).filterMap f := by
  induction pairs with
  | nil => exact ⟨rfl, rfl⟩
  | cons q pairs ih =>
    obtain ⟨trees, nodes⟩ := ih fun q hq => h q (List.mem_cons_of_mem _ hq)
    have first := h q (List.mem_cons_self ..)
    obtain ⟨c, _ | a⟩ := q
    · simp only [Option.bind_none, Option.isSome_none] at first
      constructor
      · simpa [← first] using trees
      · simpa using nodes
    · cases hf : f a with
      | none =>
        simp only [Option.bind_some, hf, Option.isSome_none] at first
        constructor
        · simpa [hf, ← first] using trees
        · simpa [hf] using nodes
      | some b =>
        simp only [Option.bind_some, hf, Option.isSome_some] at first
        constructor
        · simpa [hf, ← first] using trees
        · simpa [hf] using nodes

/-- A part of a try statement becomes a catch clause, the last block or nothing. -/
theorem tryPart_reads {c : t.Below} {part : Option TryPart} (ih : FollowsBelow r t.weight)
    (h : (match c.tree.type with
      | "catch_clause" => do
        let parameter ← found (c.tree.namedOfType? "catch_formal_parameter")
        let type ← found (parameter.tree.namedOfType? "catch_type")
        let name ← r.fieldText parameter.tree "name"
        let body ← required (c.tree.fieldBelow? "body")
        return some (.catch (r.node c.tree
          (.catchClause ⟨r.typeText type.tree, name⟩ (← r.block body.tree))))
      | "finally_clause" => do
        let body ← found (c.tree.namedOfType? "block")
        return some (.last (← r.block body.tree))
      | _ => return none) = (.ok part : Read (Option TryPart))) :
    (part.bind TryPart.catch?).isSome = (c.tree.type == "catch_clause") ∧
      (part.bind TryPart.last?).isSome = (c.tree.type == "finally_clause") ∧
      (∀ n, part = some (.catch n) → r.Reads .catchClause c.tree n) ∧
      ∀ n, part = some (.last n) → ∃ b, c.tree.namedChildren.find? (·.type == "block") = some b ∧
        r.Reads .block b n := by
  have inside := ih.mono (Nat.le_of_lt c.lt)
  split at h
  · rename_i type
    obtain ⟨parameter, _, h⟩ := bind_eq_ok.1 h
    obtain ⟨_, _, h⟩ := bind_eq_ok.1 h
    obtain ⟨_, _, h⟩ := bind_eq_ok.1 h
    obtain ⟨_, _, inner, reads, h⟩ := bind_field inside.block h
    obtain rfl := pure_eq_ok.1 h
    rw [type]
    refine ⟨rfl, rfl, fun n hn => ?_, (fun _ h => by cases h)⟩
    cases hn
    exact .catchClause inner reads
  · rename_i type
    obtain ⟨b, hb, h⟩ := bind_eq_ok.1 h
    obtain ⟨body, hbody, h⟩ := bind_eq_ok.1 h
    obtain rfl := pure_eq_ok.1 h
    rw [type]
    refine ⟨rfl, rfl, (fun _ h => by cases h), fun n hn => ?_⟩
    cases hn
    exact ⟨b.tree, find?_of_namedOfType? (found_eq_ok.1 hb), inside.block b.lt hbody⟩
  · rename_i noCatch noFinally
    obtain rfl := pure_eq_ok.1 h
    exact ⟨(beq_false_of_ne noCatch).symm, (beq_false_of_ne noFinally).symm,
      (fun _ h => by cases h), (fun _ h => by cases h)⟩

/-- The catch clauses of a try statement and its last block, if there is one. -/
theorem tryParts_reads {parts : List (Option TryPart)} (ih : FollowsBelow r t.weight)
    (h : (t.namedBelow.mapM fun c => match c.tree.type with
      | "catch_clause" => do
        let parameter ← found (c.tree.namedOfType? "catch_formal_parameter")
        let type ← found (parameter.tree.namedOfType? "catch_type")
        let name ← r.fieldText parameter.tree "name"
        let body ← required (c.tree.fieldBelow? "body")
        return some (.catch (r.node c.tree
          (.catchClause ⟨r.typeText type.tree, name⟩ (← r.block body.tree))))
      | "finally_clause" => do
        let body ← found (c.tree.namedOfType? "block")
        return some (.last (← r.block body.tree))
      | _ => return none) = (.ok parts : Read (List (Option TryPart)))) :
    ∃ (catches : List (ParseTree × Node)) (last : Option (ParseTree × Node)),
      catches.map (·.1) = t.namedChildren.filter (·.type == "catch_clause") ∧
      (∀ c ∈ catches, r.Reads .catchClause c.1 c.2) ∧
      last.map (·.1) = (t.namedChildren.filter (·.type == "finally_clause")).getLast?.bind
        (·.namedChildren.find? (·.type == "block")) ∧
      (∀ l ∈ last, r.Reads .block l.1 l.2) ∧
      catches.map (·.2) = (parts.filterMap id).filterMap TryPart.catch? ∧
      last.map (·.2) = ((parts.filterMap id).filterMap TryPart.last?).getLast? := by
  obtain ⟨pairs, trees, rfl, hpairs⟩ := readings_of_mapM h
  rw [namedChildren_eq] at trees
  have reads : ∀ q ∈ pairs, (q.2.bind TryPart.catch?).isSome = (q.1.type == "catch_clause") ∧
      (q.2.bind TryPart.last?).isSome = (q.1.type == "finally_clause") ∧
      (∀ n, q.2 = some (.catch n) → r.Reads .catchClause q.1 n) ∧
      ∀ n, q.2 = some (.last n) → ∃ b, q.1.namedChildren.find? (·.type == "block") = some b ∧
        r.Reads .block b n := by
    intro q hq
    obtain ⟨c, -, eq, hc⟩ := hpairs q hq
    rw [← eq]
    exact tryPart_reads ih hc
  obtain ⟨catchTrees, catchNodes⟩ := select_readings (f := TryPart.catch?)
    (p := (·.type == "catch_clause")) fun q hq => (reads q hq).1
  obtain ⟨lastTrees, lastNodes⟩ := select_readings (f := TryPart.last?)
    (p := (·.type == "finally_clause")) fun q hq => (reads q hq).2.1
  rw [trees] at catchTrees lastTrees
  refine ⟨pairs.filterMap fun q => (q.2.bind TryPart.catch?).map (q.1, ·), ?_⟩
  have catches : ∀ c ∈ pairs.filterMap fun q => (q.2.bind TryPart.catch?).map (q.1, ·),
      r.Reads .catchClause c.1 c.2 := by
    intro c hc
    obtain ⟨⟨tree, part⟩, hq, hc⟩ := List.mem_filterMap.1 hc
    obtain ⟨n, hn, rfl⟩ := Option.map_eq_some_iff.1 hc
    obtain ⟨part, rfl, hpart⟩ := Option.bind_eq_some_iff.1 hn
    cases part <;> cases hpart
    exact (reads _ hq).2.2.1 n rfl
  rw [← lastTrees, ← lastNodes, List.getLast?_map, List.getLast?_map]
  cases hlast : (pairs.filterMap fun q => (q.2.bind TryPart.last?).map (q.1, ·)).getLast? with
  | none =>
    exact ⟨none, catchTrees, catches, rfl, fun _ h => absurd h (Option.not_mem_none _), catchNodes,
      rfl⟩
  | some l =>
    obtain ⟨⟨tree, part⟩, hq, hl⟩ := List.mem_filterMap.1 (List.mem_of_getLast? hlast)
    obtain ⟨n, hn, rfl⟩ := Option.map_eq_some_iff.1 hl
    obtain ⟨part, rfl, hpart⟩ := Option.bind_eq_some_iff.1 hn
    cases part <;> cases hpart
    obtain ⟨b, hb, hn⟩ := (reads _ hq).2.2.2 n rfl
    refine ⟨some (b, n), catchTrees, catches, hb.symm, fun k hk => ?_, catchNodes, rfl⟩
    cases hk
    exact hn

theorem tryStatement_reads {n : Node} (ih : FollowsBelow r t.weight)
    (type : t.type = "try_statement" ∨ t.type = "try_with_resources_statement")
    (h : r.tryStatement t = .ok n) : r.Reads .statement t n := by
  rw [Reading.tryStatement] at h
  cases hv : t.fieldBelow? "resources" with
  | none =>
    simp only [hv, bind_eq_ok, required_eq_ok, pure_eq_ok] at h
    obtain ⟨_, rfl, parts, hparts, b, hb, body, hbody, rfl⟩ := h
    obtain ⟨catches, last, catchTrees, handles, lastTree, ends, catchNodes, lastNode⟩ :=
      tryParts_reads ih hparts
    rw [← catchNodes, ← lastNode]
    exact Reads.tryStatement type
      (show ([] : List (ParseTree × Node)).map (·.1) = t.resourceTrees by
        rw [ParseTree.resourceTrees, field?_of_fieldBelow?_eq_none hv, List.map_nil])
      (List.forall_mem_nil _)
      (field?_of_fieldBelow? hb) (ih.block b.lt hbody) catchTrees
      handles lastTree ends
  | some specification =>
    simp only [hv, bind_eq_ok, required_eq_ok, pure_eq_ok] at h
    obtain ⟨_, hresources, parts, hparts, b, hb, body, hbody, rfl⟩ := h
    obtain ⟨catches, last, catchTrees, handles, lastTree, ends, catchNodes, lastNode⟩ :=
      tryParts_reads ih hparts
    obtain ⟨resources, resourceTrees, rfl, opens⟩ := readings_of_mapM hresources
    have opens : ∀ c ∈ resources, r.Reads .resource c.1 c.2 := by
      intro d hd
      obtain ⟨c, -, eq, hd⟩ := opens d hd
      rw [← eq]
      exact resource_reads (ih.mono (Nat.le_of_lt (Nat.lt_trans c.lt specification.lt)))
        (fun hv => by simpa only [hv, pure_eq_ok] using hd)
        (fun v hv => by simpa only [hv, bind_eq_ok, pure_eq_ok] using hd)
    rw [← catchNodes, ← lastNode]
    refine .tryStatement type ?_ opens (field?_of_fieldBelow? hb)
      (ih.block b.lt hbody) catchTrees handles lastTree ends
    rw [resourceTrees, ParseTree.resourceTrees, field?_of_fieldBelow? hv]

theorem soleExpression_reads {n : Node} (ih : FollowsBelow r t.weight)
    (h : r.soleExpression t = .ok n) :
    ∃ e, (t.parts.map (·.tree)).head? = some e ∧ r.Reads .expression e n := by
  rw [soleExpression] at h
  split at h
  · exact absurd h not_reject
  · rename_i c rest hparts
    exact ⟨c.tree, by rw [hparts]; rfl, ih.expression c.lt h⟩

theorem simpleStatement_reads {n : Node} (ih : FollowsBelow r t.weight)
    (h : r.simpleStatement t = .ok n) : r.Reads .statement t n := by
  rw [simpleStatement] at h
  split at h <;> rename_i type
  · obtain ⟨m, hm, h⟩ := bind_eq_ok.1 h
    obtain rfl := pure_eq_ok.1 h
    obtain ⟨e, first, reads⟩ := soleExpression_reads ih hm
    exact .expressionStatement type first reads
  · obtain ⟨m, hm, h⟩ := bind_eq_ok.1 h
    obtain rfl := pure_eq_ok.1 h
    obtain ⟨e, first, reads⟩ := soleExpression_reads ih hm
    exact .yieldStatement type first reads
  · obtain ⟨m, hm, h⟩ := bind_eq_ok.1 h
    obtain rfl := pure_eq_ok.1 h
    obtain ⟨e, first, reads⟩ := soleExpression_reads ih hm
    exact .throwStatement type first reads
  · obtain rfl := pure_eq_ok.1 h
    exact .breakStatement type
  · obtain rfl := pure_eq_ok.1 h
    exact .continueStatement type
  · obtain ⟨value, tree, reads, rfl⟩ := optional_reads (o := t.parts.head?)
      (fun o => r.node t (.returnStatement o)) ih.expression
      (fun none => by
        have none := List.head?_eq_none_iff.1 none
        simpa only [none, pure_eq_ok] using h)
      (fun c first => by
        obtain ⟨rest, hparts⟩ := List.head?_eq_some_iff.1 first
        simpa only [hparts, bind_eq_ok, pure_eq_ok] using h)
    exact .returnStatement type (by rw [tree, List.head?_map]) reads
  · split at h
    · cases h
    · rename_i c hparts
      obtain ⟨m, hm, h⟩ := bind_eq_ok.1 h
      obtain rfl := pure_eq_ok.1 h
      exact Reads.assertStatement type (by rw [hparts]; rfl) (ih.expression c.lt hm)
        (show (none : Option (ParseTree × Node)).map (·.1) = _ by rw [hparts]; rfl)
        (fun _ h => absurd h (Option.not_mem_none _))
    · rename_i c d rest hparts
      obtain ⟨m, hm, h⟩ := bind_eq_ok.1 h
      obtain ⟨k, hk, h⟩ := bind_eq_ok.1 h
      obtain rfl := pure_eq_ok.1 h
      refine Reads.assertStatement type (by rw [hparts]; rfl) (ih.expression c.lt hm)
        (show (some (d.tree, k)).map (·.1) = _ by rw [hparts]; rfl) fun e he => ?_
      cases he
      exact ih.expression d.lt hk
  · obtain ⟨ns, hns, h⟩ := bind_eq_ok.1 h
    obtain rfl := pure_eq_ok.1 h
    obtain ⟨arguments, trees, rfl, reads⟩ := arguments_reads ih hns
    exact .constructorCall type trees reads
  · exact absurd h not_reject

/-! ## Types -/

theorem bodyMembers_reads {components : List Parameter} {ns : List Node}
    (ih : FollowsBelow r t.weight) (h : r.bodyMembers components t = .ok ns) :
    ∃ members : List (ParseTree × Node), members.map (·.1) = t.memberTrees ∧
      members.map (·.2) = ns ∧ ∀ m ∈ members, r.Reads .member m.1 m.2 := by
  rw [bodyMembers] at h
  split at h
  · rename_i hfield
    cases h
    exact ⟨[], by simp [memberTrees, field?_of_fieldBelow?_eq_none hfield], rfl,
      List.forall_mem_nil _⟩
  · rename_i body hfield
    rw [memberTrees, field?_of_fieldBelow? hfield]
    exact members_reads (ih.mono (Nat.le_of_lt body.lt)) h

theorem enumConstant_reads {n : Node} (ih : FollowsBelow r t.weight)
    (h : r.enumConstant t = .ok n) : r.Reads .constant t n := by
  rw [enumConstant] at h
  obtain ⟨name, hname, h⟩ := bind_eq_ok.1 h
  obtain ⟨as, has, h⟩ := bind_eq_ok.1 h
  obtain ⟨arguments, trees, rfl, reads⟩ := arguments_reads ih has
  split at h
  · rename_i hbody
    obtain rfl := pure_eq_ok.1 h
    exact .enumConstant hname (field?_of_fieldBelow?_eq_none hbody) trees reads
  · rename_i body hbody
    obtain ⟨ms, hms, h⟩ := bind_eq_ok.1 h
    obtain rfl := pure_eq_ok.1 h
    obtain ⟨members, memberTrees, rfl, declares⟩ :=
      members_reads (ih.mono (Nat.le_of_lt body.lt)) hms
    exact .bodiedConstant hname (field?_of_fieldBelow? hbody) trees reads memberTrees declares

/-- A part of the body of an enum becomes a constant, a list of members or nothing. -/
theorem enumPart_reads {c : t.Below} {part : Option EnumPart} (ih : FollowsBelow r t.weight)
    (h : (match c.tree.type with
      | "enum_constant" => return some (.constant (← r.enumConstant c.tree))
      | "enum_body_declarations" => return some (.members (← r.members [] c.tree))
      | _ => return none) = (.ok part : Read (Option EnumPart))) :
    (part.bind EnumPart.constant?).isSome = (c.tree.type == "enum_constant") ∧
      (∀ n, part = some (.constant n) → r.Reads .constant c.tree n) ∧
      ∃ members : List (ParseTree × Node),
        members.map (·.1) = (if c.tree.type == "enum_body_declarations" then
          c.tree.parts.map (·.tree) else []) ∧
        members.map (·.2) = (part.map EnumPart.memberList).getD [] ∧
        ∀ m ∈ members, r.Reads .member m.1 m.2 := by
  have inside := ih.mono (Nat.le_of_lt c.lt)
  split at h
  · rename_i type
    obtain ⟨n, hn, h⟩ := bind_eq_ok.1 h
    obtain rfl := pure_eq_ok.1 h
    rw [type]
    refine ⟨rfl, fun m hm => ?_, [], rfl, rfl, List.forall_mem_nil _⟩
    cases hm
    exact enumConstant_reads inside hn
  · rename_i type
    obtain ⟨ns, hns, h⟩ := bind_eq_ok.1 h
    obtain rfl := pure_eq_ok.1 h
    obtain ⟨members, trees, rfl, reads⟩ := members_reads inside hns
    rw [type]
    exact ⟨rfl, (fun _ h => by cases h), members, trees, rfl, reads⟩
  · rename_i noConstant noMembers
    obtain rfl := pure_eq_ok.1 h
    refine ⟨(beq_false_of_ne noConstant).symm, (fun _ h => by cases h), [], ?_, rfl,
      List.forall_mem_nil _⟩
    rw [beq_false_of_ne noMembers]
    rfl

/-- The members of an enum are those of its parts, one list behind the other. -/
theorem memberLists_readings {pairs : List (ParseTree × Option EnumPart)}
    (h : ∀ q ∈ pairs, ∃ members : List (ParseTree × Node),
      members.map (·.1) = (if q.1.type == "enum_body_declarations" then
        q.1.parts.map (·.tree) else []) ∧
      members.map (·.2) = (q.2.map EnumPart.memberList).getD [] ∧
      ∀ m ∈ members, r.Reads .member m.1 m.2) :
    ∃ members : List (ParseTree × Node),
      members.map (·.1) = ((pairs.map (·.1)).filter (·.type == "enum_body_declarations")).flatMap
        (fun c => c.parts.map (·.tree)) ∧
      members.map (·.2) = ((pairs.map (·.2)).filterMap id).flatMap EnumPart.memberList ∧
      ∀ m ∈ members, r.Reads .member m.1 m.2 := by
  induction pairs with
  | nil => exact ⟨[], rfl, rfl, List.forall_mem_nil _⟩
  | cons q pairs ih =>
    obtain ⟨first, firstTrees, firstNodes, firstReads⟩ := h q (List.mem_cons_self ..)
    obtain ⟨rest, restTrees, restNodes, restReads⟩ := ih fun q hq => h q (List.mem_cons_of_mem _ hq)
    refine ⟨first ++ rest, ?_, ?_, fun m hm => ?_⟩
    · rw [List.map_append, firstTrees, restTrees, List.map_cons, List.filter_cons]
      split <;> simp
    · rw [List.map_append, firstNodes, restNodes, List.map_cons, List.filterMap_cons]
      cases q.2 <;> simp
    · rcases List.mem_append.1 hm with hm | hm
      · exact firstReads m hm
      · exact restReads m hm

theorem enumParts_reads {parts : List EnumPart} (ih : FollowsBelow r t.weight)
    (h : r.enumParts t = .ok parts) :
    ∃ constants members : List (ParseTree × Node),
      constants.map (·.1) = (((t.field? "body").map (·.namedChildren)).getD []).filter
        (·.type == "enum_constant") ∧
      constants.map (·.2) = parts.filterMap EnumPart.constant? ∧
      (∀ c ∈ constants, r.Reads .constant c.1 c.2) ∧
      members.map (·.1) = ((((t.field? "body").map (·.namedChildren)).getD []).filter
          (·.type == "enum_body_declarations")).flatMap (fun c => c.parts.map (·.tree)) ∧
      members.map (·.2) = parts.flatMap EnumPart.memberList ∧
      ∀ m ∈ members, r.Reads .member m.1 m.2 := by
  rw [enumParts] at h
  split at h
  · rename_i hfield
    cases h
    rw [field?_of_fieldBelow?_eq_none hfield]
    exact ⟨[], [], rfl, rfl, List.forall_mem_nil _, rfl, rfl, List.forall_mem_nil _⟩
  · rename_i body hfield
    obtain ⟨ps, hps, h⟩ := bind_eq_ok.1 h
    obtain rfl := pure_eq_ok.1 h
    obtain ⟨pairs, trees, rfl, hpairs⟩ := readings_of_mapM hps
    rw [namedChildren_eq] at trees
    rw [field?_of_fieldBelow? hfield, Option.map_some, Option.getD_some, ← trees]
    have reads : ∀ q ∈ pairs,
        (q.2.bind EnumPart.constant?).isSome = (q.1.type == "enum_constant") ∧
        (∀ n, q.2 = some (.constant n) → r.Reads .constant q.1 n) ∧
        ∃ members : List (ParseTree × Node),
          members.map (·.1) = (if q.1.type == "enum_body_declarations" then
            q.1.parts.map (·.tree) else []) ∧
          members.map (·.2) = (q.2.map EnumPart.memberList).getD [] ∧
          ∀ m ∈ members, r.Reads .member m.1 m.2 := by
      intro q hq
      obtain ⟨c, -, eq, hc⟩ := hpairs q hq
      rw [← eq]
      exact enumPart_reads (ih.mono (Nat.le_of_lt body.lt)) hc
    obtain ⟨constantTrees, constantNodes⟩ := select_readings (f := EnumPart.constant?)
      (p := (·.type == "enum_constant")) fun q hq => (reads q hq).1
    obtain ⟨members, memberTrees, memberNodes, declares⟩ :=
      memberLists_readings fun q hq => (reads q hq).2.2
    refine ⟨_, members, constantTrees, constantNodes, fun c hc => ?_, memberTrees, memberNodes,
      declares⟩
    obtain ⟨⟨tree, part⟩, hq, hc⟩ := List.mem_filterMap.1 hc
    obtain ⟨n, hn, rfl⟩ := Option.map_eq_some_iff.1 hc
    obtain ⟨part, rfl, hpart⟩ := Option.bind_eq_some_iff.1 hn
    cases part <;> cases hpart
    exact (reads _ hq).2.1 n rfl

theorem typeDeclaration_reads {n : Node} (ih : FollowsBelow r t.weight)
    (h : r.typeDeclaration t = .ok n) : r.Reads .type t n := by
  rw [Reading.typeDeclaration] at h
  obtain ⟨name, hname, h⟩ := bind_eq_ok.1 h
  dsimp only at h
  split at h <;> rename_i type
  · obtain ⟨ns, hns, h⟩ := bind_eq_ok.1 h
    obtain rfl := pure_eq_ok.1 h
    obtain ⟨members, trees, rfl, reads⟩ := bodyMembers_reads ih hns
    exact .typeDeclaration (.class type) hname trees reads
  · obtain ⟨ns, hns, h⟩ := bind_eq_ok.1 h
    obtain rfl := pure_eq_ok.1 h
    obtain ⟨members, trees, rfl, reads⟩ := bodyMembers_reads ih hns
    exact .typeDeclaration (.interface type) hname trees reads
  · obtain ⟨ns, hns, h⟩ := bind_eq_ok.1 h
    obtain rfl := pure_eq_ok.1 h
    obtain ⟨members, trees, rfl, reads⟩ := bodyMembers_reads ih hns
    exact .typeDeclaration (.annotationType type) hname trees reads
  · obtain ⟨parts, hparts, h⟩ := bind_eq_ok.1 h
    obtain rfl := pure_eq_ok.1 h
    obtain ⟨constants, members, constantTrees, constantNodes, lists, memberTrees, memberNodes,
      reads⟩ := enumParts_reads ih hparts
    rw [← constantNodes, ← memberNodes]
    exact .enumDeclaration type hname constantTrees lists memberTrees reads
  · obtain ⟨components, hcomponents, h⟩ := bind_eq_ok.1 h
    obtain ⟨ns, hns, h⟩ := bind_eq_ok.1 h
    obtain rfl := pure_eq_ok.1 h
    obtain ⟨members, trees, rfl, reads⟩ := bodyMembers_reads ih hns
    exact .typeDeclaration (.record type hcomponents) hname trees reads
  · exact absurd h not_reject

theorem statement_reads {n : Node} (ih : FollowsBelow r t.weight) (h : r.statement t = .ok n) :
    r.Reads .statement t n := by
  rw [statement] at h
  split at h
  · rename_i form
    exact .localType form (typeDeclaration_reads ih h)
  · split at h
    · rename_i type
      exact .localBlock type (block_reads ih h)
    · rename_i type
      obtain rfl := pure_eq_ok.1 h
      exact .emptyStatement type
    · rename_i type
      obtain ⟨text, htext, h⟩ := bind_eq_ok.1 h
      obtain ⟨ns, hns, h⟩ := bind_eq_ok.1 h
      obtain rfl := pure_eq_ok.1 h
      obtain ⟨declarators, trees, rfl, reads⟩ := declarators_reads ih hns
      exact .localDeclaration type htext trees reads
    · rename_i type
      obtain ⟨label, hlabel, h⟩ := bind_eq_ok.1 h
      obtain ⟨s, hs, h⟩ := bind_eq_ok.1 h
      obtain ⟨m, hm, h⟩ := bind_eq_ok.1 h
      obtain rfl := pure_eq_ok.1 h
      refine .labeledStatement type ?_ (ih.statement s.lt hm)
      rw [← map_childrenBelow, List.getLast?_map, placed_eq_ok.1 hs]
      rfl
    · rename_i type
      exact ifStatement_reads ih type h
    · rename_i type
      obtain ⟨_, _, test, tests, h⟩ := bind_field ih.expression h
      obtain ⟨_, _, inner, reads, h⟩ := bind_field ih.statement h
      obtain rfl := pure_eq_ok.1 h
      exact .whileStatement type test tests inner reads
    · rename_i type
      obtain ⟨_, _, inner, reads, h⟩ := bind_field ih.statement h
      obtain ⟨_, _, test, tests, h⟩ := bind_field ih.expression h
      obtain rfl := pure_eq_ok.1 h
      exact .doStatement type inner reads test tests
    · rename_i type
      exact forStatement_reads ih type h
    · rename_i type
      obtain ⟨_, _, h⟩ := bind_eq_ok.1 h
      obtain ⟨_, _, h⟩ := bind_eq_ok.1 h
      obtain ⟨_, _, value, ranges, h⟩ := bind_field ih.expression h
      obtain ⟨_, _, inner, reads, h⟩ := bind_field ih.statement h
      obtain rfl := pure_eq_ok.1 h
      exact .forEachStatement type value ranges inner reads
    · rename_i type
      obtain ⟨l, hl, h⟩ := bind_eq_ok.1 h
      obtain ⟨lock, hlock, h⟩ := bind_eq_ok.1 h
      obtain ⟨_, _, inner, reads, h⟩ := bind_field ih.block h
      obtain rfl := pure_eq_ok.1 h
      refine .synchronizedStatement type ?_ (ih.expression l.lt hlock) inner reads
      rw [List.head?_map, placed_eq_ok.1 hl]
      rfl
    · rename_i type
      exact tryStatement_reads ih (.inl type) h
    · rename_i type
      exact tryStatement_reads ih (.inr type) h
    · rename_i type
      obtain ⟨_, _, _, _, condition, selects, body, trees, reads, h⟩ := bind_switch ih h
      obtain rfl := pure_eq_ok.1 h
      exact .switchStatement type condition selects body trees reads
    · exact simpleStatement_reads ih h

/-! ## Members -/

theorem constructorBody_reads {n : Node} (ih : FollowsBelow r t.weight)
    (h : r.constructorBody t = .ok n) : ∃ b, t.field? "body" = some b ∧ r.Reads .block b n := by
  rw [constructorBody] at h
  obtain ⟨b, hb, h⟩ := bind_eq_ok.1 h
  exact ⟨b.tree, field?_of_fieldBelow? (required_eq_ok.1 hb), ih.block b.lt h⟩

theorem method_reads {n : Node} (ih : FollowsBelow r t.weight)
    (type : t.type = "method_declaration") (h : r.method t = .ok n) : r.Reads .member t n := by
  rw [Reading.method] at h
  obtain ⟨text, _, h⟩ := bind_eq_ok.1 h
  obtain ⟨name, hname, h⟩ := bind_eq_ok.1 h
  obtain ⟨parameters, _, h⟩ := bind_eq_ok.1 h
  obtain ⟨body, tree, reads, rfl⟩ := optional_reads (o := t.fieldBelow? "body")
    (fun o => r.node t (.callable (.method (text ++ ((t.field? "dimensions").map r.text).getD ""))
      name parameters o (modifiers t))) ih.block
    (fun hv => by
      simp only [hv, bind_eq_ok, pure_eq_ok] at h
      obtain ⟨_, rfl, hn⟩ := h
      exact hn)
    (fun v hv => by
      simp only [hv, bind_eq_ok, map_eq_ok, pure_eq_ok] at h
      obtain ⟨_, ⟨m, hm, rfl⟩, hn⟩ := h
      exact ⟨m, hm, hn⟩)
  exact .method type hname (tree.trans (field?_eq ..)) reads

theorem annotationMember_reads {n : Node} (ih : FollowsBelow r t.weight)
    (form : t.type = "annotation_type_element_declaration") (h : r.annotationMember t = .ok n) :
    r.Reads .member t n := by
  rw [Reading.annotationMember] at h
  obtain ⟨name, hname, h⟩ := bind_eq_ok.1 h
  obtain ⟨type, htype, h⟩ := bind_eq_ok.1 h
  obtain ⟨value, tree, reads, rfl⟩ := optional_reads (o := t.defaultValue?)
    (fun o => r.node t (.annotationMember name type o (modifiers t))) ih.expression
    (fun hv => by simpa only [hv, pure_eq_ok] using h)
    (fun v hv => by simpa only [hv, bind_eq_ok, pure_eq_ok] using h)
  exact .annotationMember form hname htype tree reads

theorem fieldDeclaration_reads {n : Node} (ih : FollowsBelow r t.weight)
    (form : t.type = "field_declaration" ∨ t.type = "constant_declaration")
    (h : (do
      let type ← r.fieldText t "type"
      return r.node t (.fieldDeclaration type (← r.declarators t) (modifiers t))) =
        (.ok n : Read Node)) : r.Reads .member t n := by
  obtain ⟨type, htype, h⟩ := bind_eq_ok.1 h
  obtain ⟨ns, hns, h⟩ := bind_eq_ok.1 h
  obtain rfl := pure_eq_ok.1 h
  obtain ⟨declarators, trees, rfl, reads⟩ := declarators_reads ih hns
  exact .fieldDeclaration form htype trees reads

theorem member_reads {components : List Parameter} {n : Node} (ih : FollowsBelow r t.weight)
    (h : r.member components t = .ok n) : r.Reads .member t n := by
  rw [member] at h
  split at h
  · rename_i form
    exact .memberType form (typeDeclaration_reads ih h)
  · split at h
    · rename_i type
      exact fieldDeclaration_reads ih (.inl type) h
    · rename_i type
      exact fieldDeclaration_reads ih (.inr type) h
    · rename_i type
      exact method_reads ih type h
    · rename_i type
      obtain ⟨name, hname, h⟩ := bind_eq_ok.1 h
      obtain ⟨parameters, _, h⟩ := bind_eq_ok.1 h
      obtain ⟨body, hbody, h⟩ := bind_eq_ok.1 h
      obtain rfl := pure_eq_ok.1 h
      obtain ⟨b, hb, reads⟩ := constructorBody_reads ih hbody
      exact .constructor (.inl type) hname hb reads
    · rename_i type
      obtain ⟨name, hname, h⟩ := bind_eq_ok.1 h
      obtain ⟨body, hbody, h⟩ := bind_eq_ok.1 h
      obtain rfl := pure_eq_ok.1 h
      obtain ⟨b, hb, reads⟩ := constructorBody_reads ih hbody
      exact .constructor (.inr type) hname hb reads
    · rename_i type
      obtain ⟨b, hb, h⟩ := bind_eq_ok.1 h
      obtain ⟨body, hbody, h⟩ := bind_eq_ok.1 h
      obtain rfl := pure_eq_ok.1 h
      exact .staticInitializer type (find?_of_namedOfType? (found_eq_ok.1 hb)) (ih.block b.lt hbody)
    · rename_i type
      obtain ⟨body, hbody, h⟩ := bind_eq_ok.1 h
      obtain rfl := pure_eq_ok.1 h
      exact .instanceInitializer type (block_reads ih hbody)
    · rename_i type
      exact annotationMember_reads ih type h
    · exact absurd h not_reject
    · exact absurd h not_reject
    · exact absurd h not_reject

end Parts

/-- The rules are followed everywhere. -/
theorem followsBelow (r : Reading) (k : Nat) : FollowsBelow r k := by
  induction k with
  | zero =>
    exact ⟨fun lt => absurd lt (Nat.not_lt_zero _), fun lt => absurd lt (Nat.not_lt_zero _),
      fun lt => absurd lt (Nat.not_lt_zero _)⟩
  | succ k ih =>
    have below {t : ParseTree} (lt : t.weight < k + 1) : FollowsBelow r t.weight :=
      ih.mono (Nat.le_of_lt_succ lt)
    exact ⟨fun lt => expression_reads (below lt), fun lt => statement_reads (below lt),
      fun lt => member_reads (below lt)⟩

/-! ## Units -/

/-- What a child of the root is read as, and the node it gives. -/
inductive ReadsTop (r : Reading) (t : ParseTree) : TopLevel → Prop where
  | package (type : t.type = "package_declaration") :
      ReadsTop r t (.package (r.node t (.packageDeclaration (r.qualifiedName t))))
  | import (type : t.type = "import_declaration") :
      ReadsTop r t (.import (r.importDeclaration t))
  | module {n : Node} (type : t.type = "module_declaration")
      (reads : r.moduleDeclaration t = .ok n) : ReadsTop r t (.module n)
  | type {n : Node} (form : t.isTypeDeclaration) (reads : r.Reads .type t n) :
      ReadsTop r t (.type n)

theorem topLevel_reads {t : ParseTree} {part : TopLevel} (h : r.topLevel t = .ok part) :
    r.ReadsTop t part := by
  rw [topLevel] at h
  split at h
  · rename_i form
    obtain ⟨n, hn, rfl⟩ := map_eq_ok.1 h
    exact .type form (typeDeclaration_reads (followsBelow r _) hn)
  · split at h <;> rename_i type
    · cases h
      exact .package type
    · cases h
      exact .import type
    · obtain ⟨n, hn, rfl⟩ := map_eq_ok.1 h
      exact .module type hn
    · exact absurd h not_reject

/-- The unit that a source is read as, and the trees that its parts are read from. -/
theorem unitOf_reads {level : LanguageLevel} {preview : Bool} {parse : Parse} {unit : Node}
    (h : r.unitOf level preview parse = .ok unit) :
    ∃ parts : List (ParseTree × TopLevel),
      parts.map (·.1) = parse.root.namedChildren.filter (fun c => !c.isComment) ∧
      (∀ p ∈ parts, r.ReadsTop p.1 p.2) ∧
      unit = .bare (r.unitSpan parse.root) (.compilationUnit
        ((parts.map (·.2)).filterMap TopLevel.package?).getLast?
        ((parts.map (·.2)).filterMap TopLevel.import?)
        ((parts.map (·.2)).filterMap TopLevel.type?)
        ((parts.map (·.2)).filterMap TopLevel.module?).getLast?) := by
  unfold unitOf at h
  obtain ⟨_, _, h⟩ := bind_eq_ok.1 h
  obtain ⟨_, _, h⟩ := bind_eq_ok.1 h
  obtain ⟨tops, htops, h⟩ := bind_eq_ok.1 h
  obtain ⟨parts, trees, rfl, reads⟩ := mapM_eq_ok htops
  unfold assemble at h
  dsimp only at h
  split at h
  · cases h
  · cases h
    exact ⟨parts, trees, fun p hp => topLevel_reads (reads p hp), rfl⟩

/-- The nodes that stand directly in a unit are read from children of the root. -/
theorem unitOf_children {level : LanguageLevel} {preview : Bool} {parse : Parse} {unit : Node}
    (h : r.unitOf level preview parse = .ok unit) :
    ∀ c ∈ unit.children, ∃ t ∈ parse.root.namedChildren, ∃ top, r.ReadsTop t top ∧ top.node = c := by
  obtain ⟨parts, trees, reads, rfl⟩ := unitOf_reads h
  intro c hc
  have part {f : TopLevel → Option Node} (hc : c ∈ (parts.map (·.2)).filterMap f)
      (node : ∀ top, f top = some c → top.node = c) :
      ∃ t ∈ parse.root.namedChildren, ∃ top, r.ReadsTop t top ∧ top.node = c := by
    obtain ⟨top, htop, hc⟩ := List.mem_filterMap.1 hc
    obtain ⟨p, hp, rfl⟩ := List.mem_map.1 htop
    have ht : p.1 ∈ parse.root.namedChildren.filter fun c => !c.isComment := by
      rw [← trees]
      exact List.mem_map_of_mem hp
    exact ⟨p.1, List.mem_of_mem_filter ht, p.2, reads p hp, node p.2 hc⟩
  simp only [Node.children, Node.bare, Construct.children, List.mem_append, Option.mem_toList] at hc
  rcases hc with ((hc | hc) | hc) | hc
  · exact part (List.mem_of_getLast? hc) fun top htop => by cases top <;> cases htop; rfl
  · exact part hc fun top htop => by cases top <;> cases htop; rfl
  · exact part (List.mem_of_getLast? hc) fun top htop => by cases top <;> cases htop; rfl
  · exact part hc fun top htop => by cases top <;> cases htop; rfl

end Reading

end JavaCensus
