import JavaCensus.Proofs.Shapes

/-!
# Code that the reader keeps

Each tree that holds code becomes one node of the unit, with its own span, as long as none stands
where the reader does not look.
-/
namespace JavaCensus

namespace Reading

open ParseTree

variable {r : Reading}

section Functions

variable {t : ParseTree} {n : Node}

/-! ## Expressions -/

theorem outermostCode_held (stack : List ParseTree) :
    ((stack.filter fun c => !c.annotates).flatMap held).Sublist
      ((outermostCode stack).flatMap held) := by
  -- The search also goes into annotations, so it may find more than is held.
  fun_induction outermostCode stack with
  | case1 => exact .slnil
  | case2 t rest _ ih =>
    rw [List.filter_cons]
    split
    · rw [List.flatMap_cons, List.flatMap_cons]
      exact (List.Sublist.refl _).append ih
    · exact ih.trans (List.sublist_append_right _ _)
  | case3 t rest noCode ih =>
    refine List.Sublist.trans ?_ ih
    rw [List.filter_append, List.flatMap_append, List.filter_cons]
    split
    · rw [List.flatMap_cons, held_eq, if_neg noCode]
      exact List.Sublist.refl _
    · exact List.sublist_append_right _ _

theorem outermostCode_code (stack : List ParseTree) :
    ((outermostCode stack).flatMap code).Sublist (stack.flatMap code) := by
  fun_induction outermostCode stack with
  | case1 => exact .slnil
  | case2 t rest _ ih => exact (List.Sublist.refl _).append ih
  | case3 t rest noCode ih =>
    refine ih.trans ?_
    rw [List.flatMap_append, List.flatMap_cons, code_eq, if_neg noCode, List.nil_append]
    exact ((List.filter_sublist (l := t.children)).flatMap code).append (.refl _)

theorem plainExpression_keeps (h : r.KeepsBelow t) (form : t.holdsCode = false)
    (read : r.plainExpression t = .ok n) : r.Keeps [t] [n] := by
  rw [plainExpression_eq] at read
  obtain ⟨nested, hnested, read⟩ := bind_eq_ok.1 read
  obtain rfl := pure_eq_ok.1 read
  have keeps : r.Keeps (outermostCode t.namedChildren) [r.node t (.plainExpression nested)] :=
    (h.expressions (fun u hu => beneath_of_mem_nestedCode hu) hnested).node rfl
  refine keeps.of_sources ?_ ?_
  · rw [List.flatMap_singleton, held_eq, form]
    exact (outermostCode_held t.namedChildren).subperm
  · rw [List.flatMap_singleton, code_eq, form]
    exact ((outermostCode_code t.namedChildren).trans
      ((List.filter_sublist (l := t.children)).flatMap code)).subperm

theorem arguments_keeps (h : r.KeepsBelow t) {ns : List Node} (read : r.arguments t = .ok ns) :
    r.Keeps t.argumentTrees ns := by
  rw [arguments_eq] at read
  exact h.expressions (fun u hu => beneath_of_mem_argumentTrees hu) read

theorem members_keeps (h : r.KeepsBelow t) {components : List Parameter} {ns : List Node}
    (read : r.members components t = .ok ns) : r.Keeps (t.parts.map (·.tree)) ns := by
  rw [members_eq] at read
  exact h.members (fun u hu => beneath_of_mem_parts hu) read

theorem declarators_keeps (h : r.KeepsBelow t) {ns : List Node}
    (read : r.declarators t = .ok ns) : r.Keeps t.variableValues ns := by
  rw [declarators_eq] at read
  refine Keeps.mapM read fun c hc n hn => ?_
  have h := h.child (mem_children_of_mem_fieldsBelow hc)
  obtain ⟨name, _, hn⟩ := bind_eq_ok.1 hn
  obtain ⟨value, keeps, hn⟩ := h.optionalExpression hn
  obtain rfl := pure_eq_ok.1 hn
  exact keeps.node rfl

/-! ## Switches -/

theorem switchEntry_keeps {label : ParseTree} (h : r.KeepsBelow label) {span : Span}
    {trees : List ParseTree} {statements : List Node} (body : r.Keeps trees statements)
    (read : r.switchEntry label span statements = .ok n) :
    r.Keeps (label.parts.map (·.tree) ++ trees) [n] := by
  rw [switchEntry_eq] at read
  obtain ⟨labels, hlabels, read⟩ := bind_eq_ok.1 read
  obtain rfl := pure_eq_ok.1 read
  have labels := h.expressions (fun u hu => beneath_of_mem_parts hu) hlabels
  exact (labels.append body).node rfl

theorem groupOf_keeps {statements : List Node} (body : r.Keeps t.entryTrees statements)
    {labels : List ParseTree} (h : ∀ label ∈ labels, r.KeepsBelow label) {ns : List Node}
    (read : r.groupOf t statements labels = .ok ns) :
    r.Keeps (if labels.isEmpty then []
      else labels.flatMap (fun label => label.parts.map (·.tree)) ++ t.entryTrees) ns := by
  induction labels generalizing ns with
  | nil =>
    obtain rfl := pure_eq_ok.1 read
    exact .nil
  | cons label rest ih =>
    have first := h label (List.mem_cons_self ..)
    cases rest with
    | nil =>
      obtain ⟨entry, hentry, read⟩ := bind_eq_ok.1 read
      obtain rfl := pure_eq_ok.1 read
      have keeps := switchEntry_keeps first body hentry
      simpa using keeps
    | cons other rest =>
      obtain ⟨entry, hentry, read⟩ := bind_eq_ok.1 read
      obtain ⟨entries, hentries, read⟩ := bind_eq_ok.1 read
      obtain rfl := pure_eq_ok.1 read
      have keeps := (switchEntry_keeps first .nil hentry).append
        (ih (fun l hl => h l (List.mem_cons_of_mem _ hl)) hentries)
      simpa using keeps

theorem entriesOf_keeps (h : r.KeepsBelow t) {ns : List Node} (read : r.entriesOf t = .ok ns) :
    r.Keeps t.partsOfEntries ns := by
  have body {statements : List Node} (read : t.entryTrees.mapM r.statement = .ok statements) :
      r.Keeps t.entryTrees statements :=
    h.statements (fun u hu => beneath_of_mem_children
      (mem_children_of_mem_statementTrees hu)) read
  unfold entriesOf at read
  split at read
  · rename_i type
    simp only [partsOfEntries, type]
    obtain ⟨statements, hstatements, read⟩ := bind_eq_ok.1 read
    exact groupOf_keeps (body hstatements) (fun label hl => h.child
      (mem_children_of_mem_namedChildren (List.mem_of_mem_filter hl))) read
  · rename_i type
    simp only [partsOfEntries, type]
    obtain ⟨label, hlabel, read⟩ := bind_eq_ok.1 read
    obtain ⟨statements, hstatements, read⟩ := bind_eq_ok.1 read
    obtain ⟨entry, hentry, read⟩ := bind_eq_ok.1 read
    obtain rfl := pure_eq_ok.1 read
    have hlabel := found_eq_ok.1 hlabel
    rw [List.head?_filter, hlabel, Option.toList_some, List.flatMap_singleton]
    exact switchEntry_keeps (h.child (mem_children_of_find?_namedChildren hlabel))
      (body hstatements) hentry
  · obtain rfl := pure_eq_ok.1 read
    simp only [partsOfEntries, *]
    exact .nil

theorem switchEntries_keeps (h : r.KeepsBelow t) {ns : List Node}
    (read : r.switchEntries t = .ok ns) :
    r.Keeps (t.namedChildren.flatMap partsOfEntries) ns := by
  rw [switchEntries_eq] at read
  obtain ⟨lists, hlists, rfl⟩ := map_eq_ok.1 read
  exact .flatMap hlists fun c hc _ =>
    entriesOf_keeps (h.child (mem_children_of_mem_namedChildren hc))

/-- The selector of a switch and its entries. -/
theorem switch_keeps (h : r.KeepsBelow t) {α : Type} {k : Node → List Node → Read α} {a : α}
    (read : (do
      let condition ← required (t.field? "condition")
      let selector ← r.expression condition
      let body ← required (t.field? "body")
      k selector (← r.switchEntries body)) = .ok a) :
    ∃ selector entries, r.Keeps (t.fieldTree "condition" ++
      (t.fieldTree "body").flatMap fun b => b.namedChildren.flatMap partsOfEntries)
      (selector :: entries) ∧ k selector entries = .ok a := by
  obtain ⟨selector, condition, read⟩ := h.requiredExpression read
  obtain ⟨body, hbody, read⟩ := bind_eq_ok.1 read
  obtain ⟨entries, hentries, read⟩ := bind_eq_ok.1 read
  have hbody := required_eq_ok.1 hbody
  refine ⟨selector, entries, condition.append ?_, read⟩
  rw [fieldTree, hbody, Option.toList_some, List.flatMap_singleton]
  exact switchEntries_keeps (h.child (mem_children_of_field? hbody)) hentries

theorem lambdaOf_keeps (h : r.KeepsBelow t) (covered : t.Covered)
    (type : t.type = "lambda_expression") (read : r.lambdaOf t = .ok n) : r.Keeps [t] [n] := by
  obtain ⟨body, hbody, read⟩ := bind_eq_ok.1 read
  have hbody := required_eq_ok.1 hbody
  have child := mem_children_of_field? hbody
  have sources : t.sources = if body.type == "block" then body.blockTrees else [body] := by
    simp [ParseTree.sources, type, fieldTree, hbody]
  have form : t.holdsCode = true := by simp [holdsCode, type]
  split at read
  · rename_i isBlock
    obtain ⟨b, hb, read⟩ := bind_eq_ok.1 read
    obtain rfl := pure_eq_ok.1 read
    rw [if_pos isBlock] at sources
    exact Keeps.of_readAs (sources ▸ (h.child child).block hb) covered form ⟨rfl, type⟩ rfl
  · rename_i isExpression
    obtain ⟨e, he, read⟩ := bind_eq_ok.1 read
    obtain rfl := pure_eq_ok.1 read
    rw [if_neg isExpression] at sources
    exact Keeps.of_readAs (sources ▸ h.expression (beneath_of_mem_children child) e he) covered
      form ⟨rfl, type⟩ rfl

theorem creationOf_keeps (h : r.KeepsBelow t) (covered : t.Covered)
    (type : t.type = "object_creation_expression") (read : r.creationOf t = .ok n) :
    r.Keeps [t] [n] := by
  unfold creationOf at read
  split at read
  · rename_i body hbody
    obtain ⟨name, _, read⟩ := bind_eq_ok.1 read
    obtain ⟨arguments, harguments, read⟩ := bind_eq_ok.1 read
    obtain ⟨members, hmembers, read⟩ := bind_eq_ok.1 read
    obtain rfl := pure_eq_ok.1 read
    have sources : t.sources = t.argumentTrees ++ body.parts.map (·.tree) := by
      simp only [ParseTree.sources, type, hbody]
    have form : t.holdsCode = true := by
      simp only [holdsCode, type, ← List.isSome_find?, hbody]
      rfl
    have keeps := (arguments_keeps h harguments).append
      (members_keeps (h.child (mem_children_of_find?_namedChildren hbody)) hmembers)
    exact Keeps.of_readAs (sources ▸ keeps) covered form ⟨rfl, type⟩ rfl
  · rename_i noBody
    refine plainExpression_keeps h ?_ read
    simp only [holdsCode, type, ← List.isSome_find?, noBody]
    rfl

theorem expression_keeps (h : r.KeepsBelow t) (covered : t.Covered)
    (read : r.expression t = .ok n) : r.Keeps [t] [n] := by
  rw [expression_eq] at read
  split at read
  · exact lambdaOf_keeps h covered ‹_› read
  · rename_i type
    obtain ⟨selector, entries, keeps, read⟩ := switch_keeps h read
    obtain rfl := pure_eq_ok.1 read
    have sources : t.sources = t.fieldTree "condition" ++
        (t.fieldTree "body").flatMap fun b => b.namedChildren.flatMap partsOfEntries := by
      simp only [ParseTree.sources, type]
    have form : t.holdsCode = true := by simp [holdsCode, type]
    exact Keeps.of_readAs (sources ▸ keeps) covered form ⟨rfl, type⟩ rfl
  · exact creationOf_keeps h covered ‹_› read
  · rename_i lambda switch creation
    refine plainExpression_keeps h ?_ read
    simp only [holdsCode, Bool.or_eq_false_iff, Bool.and_eq_false_imp, beq_eq_false_iff_ne,
      beq_iff_eq]
    exact ⟨⟨lambda, switch⟩, fun type => (creation type).elim⟩

/-! ## Statements -/

theorem resources_keeps (h : r.KeepsBelow t) {ns : List Node}
    (read : t.resourceTrees.mapM r.resourceOf = .ok ns) :
    r.Keeps (t.resourceTrees.flatMap (·.fieldTree "value")) ns := by
  refine Keeps.mapM read fun c hc n hn => ?_
  obtain ⟨value, keeps, hn⟩ := (h.beneath (beneath_of_mem_resourceTrees hc)).optionalExpression hn
  obtain rfl := pure_eq_ok.1 hn
  exact keeps.node rfl

/-- Those of the parts of a tree that are read as something of one sort. -/
theorem selected_keeps {α : Type} {read : ParseTree → Read (Option α)} {f : α → Option Node}
    {p : ParseTree → Bool} {g : ParseTree → List ParseTree} {cs : List ParseTree}
    {parts : List (Option α)} (h : cs.mapM read = .ok parts)
    (each : ∀ c ∈ cs, ∀ part, read c = .ok part →
      (part.bind f).isSome = p c ∧ ∀ n, part.bind f = some n → r.Keeps (g c) [n]) :
    ∃ pairs : List (ParseTree × Node), pairs.map (·.1) = cs.filter p ∧
      pairs.map (·.2) = (parts.flatMap Option.toList).filterMap f ∧
      ∀ q ∈ pairs, r.Keeps (g q.1) [q.2] := by
  obtain ⟨pairs, rfl, rfl, hpairs⟩ := mapM_eq_ok h
  have each := fun q (hq : q ∈ pairs) => each q.1 (List.mem_map_of_mem hq) q.2 (hpairs q hq)
  obtain ⟨trees, nodes⟩ := select_readings fun q hq => (each q hq).1
  refine ⟨_, trees, ?_, fun s hs => ?_⟩
  · have present : (pairs.map (·.2)).filterMap id = (pairs.map (·.2)).flatMap Option.toList :=
      List.filterMap_eq_flatMap_toList ..
    rw [nodes, present]
  · obtain ⟨q, hq, hs⟩ := List.mem_filterMap.1 hs
    obtain ⟨n, hn, rfl⟩ := Option.map_eq_some_iff.1 hs
    exact (each q hq).2 n hn

/-- A catch clause keeps the statements of its body, a finally clause those of its block. -/
theorem tryPartOf_keeps (h : r.KeepsBelow t) {part : Option TryPart}
    (read : r.tryPartOf t = .ok part) :
    ((part.bind TryPart.catch?).isSome = (t.type == "catch_clause") ∧
      ∀ n, part.bind TryPart.catch? = some n → r.Keeps t.bodyStatements [n]) ∧
    ((part.bind TryPart.last?).isSome = (t.type == "finally_clause") ∧
      ∀ n, part.bind TryPart.last? = some n → r.Keeps t.blockStatements [n]) := by
  unfold tryPartOf at read
  split at read
  · rename_i type
    obtain ⟨parameter, _, read⟩ := bind_eq_ok.1 read
    obtain ⟨_, _, read⟩ := bind_eq_ok.1 read
    obtain ⟨_, _, read⟩ := bind_eq_ok.1 read
    obtain ⟨body, keeps, read⟩ := h.requiredBlock read
    obtain rfl := pure_eq_ok.1 read
    rw [type]
    refine ⟨⟨rfl, fun n hn => ?_⟩, rfl, fun n hn => by cases hn⟩
    cases hn
    exact keeps.node rfl
  · rename_i type
    obtain ⟨b, hb, read⟩ := bind_eq_ok.1 read
    obtain ⟨body, hbody, read⟩ := bind_eq_ok.1 read
    obtain rfl := pure_eq_ok.1 read
    have hb := found_eq_ok.1 hb
    rw [type]
    refine ⟨⟨rfl, fun n hn => by cases hn⟩, rfl, fun n hn => ?_⟩
    cases hn
    rw [blockStatements, hb, Option.toList_some, List.flatMap_singleton]
    exact (h.child (mem_children_of_find?_namedChildren hb)).block hbody
  · rename_i noCatch noFinally
    obtain rfl := pure_eq_ok.1 read
    exact ⟨⟨(beq_false_of_ne noCatch).symm, fun n hn => by cases hn⟩,
      (beq_false_of_ne noFinally).symm, fun n hn => by cases hn⟩

theorem tryStatement_keeps (h : r.KeepsBelow t) (read : r.tryStatement t = .ok n) :
    r.Keeps (t.resourceTrees.flatMap (·.fieldTree "value") ++ t.bodyStatements ++
      (t.namedChildren.filter (·.type == "catch_clause")).flatMap bodyStatements ++
      (t.namedChildren.filter (·.type == "finally_clause")).getLast?.toList.flatMap
        blockStatements) [n] := by
  rw [tryStatement_eq] at read
  obtain ⟨resources, hresources, read⟩ := bind_eq_ok.1 read
  obtain ⟨parts, hparts, read⟩ := bind_eq_ok.1 read
  obtain ⟨clauses, hclauses, rfl⟩ := map_eq_ok.1 hparts
  obtain ⟨body, keepsBody, read⟩ := h.requiredBlock read
  obtain rfl := pure_eq_ok.1 read
  have below {c : ParseTree} (hc : c ∈ t.namedChildren) : r.KeepsBelow c :=
    h.child (mem_children_of_mem_namedChildren hc)
  obtain ⟨catches, catchTrees, catchNodes, keepsCatches⟩ :=
    selected_keeps hclauses fun _ hc _ hpart => (tryPartOf_keeps (below hc) hpart).1
  obtain ⟨lasts, lastTrees, lastNodes, keepsLasts⟩ :=
    selected_keeps hclauses fun _ hc _ hpart => (tryPartOf_keeps (below hc) hpart).2
  rw [← catchTrees, ← lastTrees, ← catchNodes, ← lastNodes]
  exact ((((resources_keeps h hresources).append keepsBody).append (.pairs keepsCatches)).append
    (.last keepsLasts)).node rfl

theorem forStatement_keeps (h : r.KeepsBelow t) (read : r.forStatement t = .ok n) :
    r.Keeps ((t.fieldsBelow "init").map (·.tree) ++ t.fieldTree "condition" ++
      (t.fieldsBelow "update").map (·.tree) ++ t.fieldTree "body") [n] := by
  rw [forStatement_eq] at read
  obtain ⟨init, hinit, read⟩ := bind_eq_ok.1 read
  obtain ⟨body, keepsBody, read⟩ := h.requiredStatement read
  obtain ⟨condition, keepsCondition, read⟩ := h.optionalExpression read
  obtain ⟨update, hupdate, read⟩ := bind_eq_ok.1 read
  obtain rfl := pure_eq_ok.1 read
  have keepsInit := Keeps.each hinit fun u hu m hm => by
    have below := beneath_of_mem_children (mem_children_of_mem_fieldsBelow hu)
    split at hm
    · exact h.statement below m hm
    · exact h.expression below m hm
  have keepsUpdate := h.expressions (fun u hu => beneath_of_mem_children
    (mem_children_of_mem_fieldsBelow hu)) hupdate
  exact (((keepsInit.append keepsCondition).append keepsUpdate).append keepsBody).node rfl

theorem ifStatement_keeps (h : r.KeepsBelow t) (read : r.ifStatement t = .ok n) :
    r.Keeps (t.fieldTree "condition" ++ t.fieldTree "consequence" ++ t.fieldTree "alternative")
      [n] := by
  rw [ifStatement_eq] at read
  obtain ⟨condition, keepsCondition, read⟩ := h.requiredExpression read
  obtain ⟨consequence, keepsConsequence, read⟩ := h.requiredStatement read
  obtain ⟨alternative, keepsAlternative, read⟩ := h.optionalStatement read
  obtain rfl := pure_eq_ok.1 read
  exact ((keepsCondition.append keepsConsequence).append keepsAlternative).node rfl

theorem firstPart_keeps (h : r.KeepsBelow t) {c : ParseTree}
    (first : (t.parts.map (·.tree)).head? = some c) (read : r.expression c = .ok n) :
    r.Keeps (t.parts.map (·.tree)).head?.toList [n] := by
  rw [first]
  exact h.expression (beneath_of_mem_parts (List.mem_of_head? first)) n read

theorem soleExpression_keeps (h : r.KeepsBelow t) (read : r.soleExpression t = .ok n) :
    r.Keeps (t.parts.map (·.tree)).head?.toList [n] := by
  rw [soleExpression_eq] at read
  split at read
  · cases read
  · rename_i parts
    exact firstPart_keeps h (congrArg List.head? parts) read

theorem returnOf_keeps (h : r.KeepsBelow t) (read : r.returnOf t = .ok n) :
    r.Keeps (t.parts.map (·.tree)).head?.toList [n] := by
  unfold returnOf at read
  split at read
  · rename_i none
    obtain rfl := pure_eq_ok.1 read
    rw [none]
    exact Keeps.nil.node rfl
  · rename_i parts
    obtain ⟨value, hvalue, read⟩ := bind_eq_ok.1 read
    obtain rfl := pure_eq_ok.1 read
    exact (firstPart_keeps h (congrArg List.head? parts) hvalue).node rfl

theorem assertionOf_keeps (h : r.KeepsBelow t) (read : r.assertionOf t = .ok n) :
    r.Keeps ((t.parts.map (·.tree)).take 2) [n] := by
  unfold assertionOf at read
  split at read
  · cases read
  · rename_i c parts
    obtain ⟨check, hcheck, read⟩ := bind_eq_ok.1 read
    obtain rfl := pure_eq_ok.1 read
    have keeps := firstPart_keeps h (congrArg List.head? parts) hcheck
    rw [parts] at keeps ⊢
    exact keeps.node rfl
  · rename_i c d rest parts
    obtain ⟨check, hcheck, read⟩ := bind_eq_ok.1 read
    obtain ⟨message, hmessage, read⟩ := bind_eq_ok.1 read
    obtain rfl := pure_eq_ok.1 read
    have second : d ∈ t.parts.map (·.tree) :=
      parts ▸ List.mem_cons_of_mem _ (List.mem_cons_self ..)
    have keeps := (firstPart_keeps h (congrArg List.head? parts) hcheck).append
      (h.expression (beneath_of_mem_parts second) message hmessage)
    rw [parts] at keeps ⊢
    exact keeps.node rfl

/-! ## Types and members -/

theorem bodyMembers_keeps (h : r.KeepsBelow t) {components : List Parameter} {ns : List Node}
    (read : r.bodyMembers components t = .ok ns) : r.Keeps t.memberTrees ns := by
  rw [bodyMembers_eq] at read
  exact h.members (fun u hu => beneath_of_mem_memberTrees hu) read

theorem enumConstant_keeps (h : r.KeepsBelow t) (read : r.enumConstant t = .ok n) :
    r.Keeps t.constantTrees [n] := by
  rw [enumConstant_eq] at read
  obtain ⟨name, _, read⟩ := bind_eq_ok.1 read
  obtain ⟨arguments, harguments, read⟩ := bind_eq_ok.1 read
  obtain ⟨body, hbody, read⟩ := bind_eq_ok.1 read
  obtain rfl := pure_eq_ok.1 read
  have members : r.Keeps t.memberTrees (body.getD []) := by
    rw [memberTrees]
    cases hb : t.field? "body" with
    | none =>
      rw [hb] at hbody
      obtain rfl := pure_eq_ok.1 hbody
      exact .nil
    | some b =>
      rw [hb] at hbody
      obtain ⟨ms, hms, rfl⟩ := map_eq_ok.1 hbody
      exact members_keeps (h.child (mem_children_of_field? hb)) hms
  exact ((arguments_keeps h harguments).append members).node rfl

theorem enumPartOf_keeps (h : r.KeepsBelow t) {part : Option EnumPart}
    (read : r.enumPartOf t = .ok part) :
    ((part.bind EnumPart.constant?).isSome = (t.type == "enum_constant") ∧
      ∀ n, part.bind EnumPart.constant? = some n → r.Keeps t.constantTrees [n]) ∧
    r.Keeps (if t.type == "enum_body_declarations" then t.parts.map (·.tree) else [])
      (part.toList.flatMap EnumPart.memberList) := by
  unfold enumPartOf at read
  split at read
  · rename_i type
    obtain ⟨constant, hconstant, read⟩ := bind_eq_ok.1 read
    obtain rfl := pure_eq_ok.1 read
    rw [type]
    refine ⟨⟨rfl, fun n hn => ?_⟩, .nil⟩
    cases hn
    exact enumConstant_keeps h hconstant
  · rename_i type
    obtain ⟨members, hmembers, read⟩ := bind_eq_ok.1 read
    obtain rfl := pure_eq_ok.1 read
    rw [type]
    refine ⟨⟨rfl, fun n hn => by cases hn⟩, ?_⟩
    simpa [EnumPart.memberList] using members_keeps h hmembers
  · rename_i noConstant noMembers
    obtain rfl := pure_eq_ok.1 read
    refine ⟨⟨(beq_false_of_ne noConstant).symm, fun n hn => by cases hn⟩, ?_⟩
    rw [beq_false_of_ne noMembers]
    exact .nil

theorem flatMap_ite {α β : Type} (p : α → Bool) (g : α → List β) (xs : List α) :
    (xs.flatMap fun x => if p x then g x else []) = (xs.filter p).flatMap g := by
  induction xs with
  | nil => rfl
  | cons x xs ih =>
    rw [List.flatMap_cons, ih, List.filter_cons]
    split <;> rfl

theorem enumParts_keeps (h : r.KeepsBelow t) {parts : List EnumPart}
    (read : r.enumParts t = .ok parts) :
    r.Keeps ((t.enumBodyTrees "enum_constant").flatMap constantTrees ++
        (t.enumBodyTrees "enum_body_declarations").flatMap fun c => c.parts.map (·.tree))
      (parts.filterMap EnumPart.constant? ++ parts.flatMap EnumPart.memberList) := by
  rw [enumParts_eq] at read
  obtain ⟨read, hread, rfl⟩ := map_eq_ok.1 read
  have below {c : ParseTree} (hc : c ∈ ((t.field? "body").map (·.namedChildren)).getD []) :
      r.KeepsBelow c := by
    cases hb : t.field? "body" with
    | none => simp [hb] at hc
    | some b =>
      rw [hb] at hc
      exact (h.child (mem_children_of_field? hb)).child (mem_children_of_mem_namedChildren hc)
  obtain ⟨constants, trees, nodes, keepsConstants⟩ :=
    selected_keeps hread fun _ hc _ hp => (enumPartOf_keeps (below hc) hp).1
  have keepsMembers := Keeps.flatMap hread fun _ hc _ hp => (enumPartOf_keeps (below hc) hp).2
  rw [flatMap_ite] at keepsMembers
  unfold enumBodyTrees
  rw [← trees, ← nodes, List.flatMap_assoc]
  exact (Keeps.pairs keepsConstants).append keepsMembers

theorem holdsCode_of_type {type : String} (h : t.type = type)
    (none : type ∉ ["lambda_expression", "switch_expression", "object_creation_expression"]) :
    t.holdsCode = false := by
  rw [← h] at none
  simp only [List.mem_cons, List.not_mem_nil, or_false, not_or] at none
  simp [holdsCode, none.1, none.2.1, none.2.2]

/-- A tree of a known type is kept if its sources are. -/
theorem keeps_of_type {type : String} {us : List ParseTree} (h : t.type = type)
    (covered : t.Covered) (keeps : r.Keeps us [n])
    (none : type ∉ ["lambda_expression", "switch_expression", "object_creation_expression"])
    (sources : t.sources = us) : r.Keeps [t] [n] := by
  subst sources
  exact keeps.of_covered covered (holdsCode_of_type h none)

theorem typeDeclaration_keeps (h : r.KeepsBelow t) (covered : t.Covered)
    (read : r.typeDeclaration t = .ok n) : r.Keeps [t] [n] := by
  rw [Reading.typeDeclaration] at read
  obtain ⟨name, _, read⟩ := bind_eq_ok.1 read
  have members {sort : TypeSort} {components : List Parameter} {ns : List Node}
      (read : r.bodyMembers components t = .ok ns) :
      r.Keeps t.memberTrees [r.node t (.typeDeclaration sort name (modifiers t) ns)] :=
    (bodyMembers_keeps h read).node rfl
  split at read
  · obtain ⟨ns, hns, read⟩ := bind_eq_ok.1 read
    obtain rfl := pure_eq_ok.1 read
    exact keeps_of_type ‹_› covered (members hns) (by decide) (by simp only [sources, *])
  · obtain ⟨ns, hns, read⟩ := bind_eq_ok.1 read
    obtain rfl := pure_eq_ok.1 read
    exact keeps_of_type ‹_› covered (members hns) (by decide) (by simp only [sources, *])
  · obtain ⟨ns, hns, read⟩ := bind_eq_ok.1 read
    obtain rfl := pure_eq_ok.1 read
    exact keeps_of_type ‹_› covered (members hns) (by decide) (by simp only [sources, *])
  · obtain ⟨parts, hparts, read⟩ := bind_eq_ok.1 read
    obtain rfl := pure_eq_ok.1 read
    exact keeps_of_type ‹_› covered ((enumParts_keeps h hparts).node rfl) (by decide)
      (by simp only [sources, *])
  · obtain ⟨components, _, read⟩ := bind_eq_ok.1 read
    obtain ⟨ns, hns, read⟩ := bind_eq_ok.1 read
    obtain rfl := pure_eq_ok.1 read
    exact keeps_of_type ‹_› covered (members hns) (by decide) (by simp only [sources, *])
  · cases read

theorem method_keeps (h : r.KeepsBelow t) (read : r.method t = .ok n) :
    r.Keeps t.bodyStatements [n] := by
  rw [method_eq] at read
  obtain ⟨type, _, read⟩ := bind_eq_ok.1 read
  obtain ⟨name, _, read⟩ := bind_eq_ok.1 read
  obtain ⟨parameters, _, read⟩ := bind_eq_ok.1 read
  obtain ⟨body, keeps, read⟩ := keeps_optional (fun _ hc _ hn => (h.child hc).block hn) read
  obtain rfl := pure_eq_ok.1 read
  exact keeps.node rfl

theorem constructorBody_keeps (h : r.KeepsBelow t) (read : r.constructorBody t = .ok n) :
    r.Keeps t.bodyStatements [n] := by
  rw [constructorBody_eq] at read
  obtain ⟨c, hc, read⟩ := bind_eq_ok.1 read
  have hc := required_eq_ok.1 hc
  rw [bodyStatements, fieldTree, hc, Option.toList_some, List.flatMap_singleton]
  exact (h.child (mem_children_of_field? hc)).block read

theorem annotationMember_keeps (h : r.KeepsBelow t) (read : r.annotationMember t = .ok n) :
    r.Keeps (t.defaultValue?.map (·.tree)).toList [n] := by
  rw [annotationMember_eq] at read
  obtain ⟨name, _, read⟩ := bind_eq_ok.1 read
  obtain ⟨type, _, read⟩ := bind_eq_ok.1 read
  obtain ⟨value, hvalue, read⟩ := bind_eq_ok.1 read
  obtain rfl := pure_eq_ok.1 read
  cases hc : t.defaultValue?.map (·.tree) with
  | none =>
    rw [hc] at hvalue
    obtain rfl := pure_eq_ok.1 hvalue
    exact Keeps.nil.node rfl
  | some c =>
    rw [hc] at hvalue
    obtain ⟨m, hm, rfl⟩ := map_eq_ok.1 hvalue
    have keeps := h.expression (beneath_of_mem_children (mem_children_of_defaultValue? hc)) m hm
    exact keeps.node rfl

theorem member_keeps (h : r.KeepsBelow t) (covered : t.Covered) {components : List Parameter}
    (read : r.member components t = .ok n) : r.Keeps [t] [n] := by
  rw [member_eq] at read
  split at read
  · exact typeDeclaration_keeps h covered read
  split at read
  · obtain ⟨type, _, read⟩ := bind_eq_ok.1 read
    obtain ⟨declared, hdeclared, read⟩ := bind_eq_ok.1 read
    obtain rfl := pure_eq_ok.1 read
    exact keeps_of_type ‹_› covered ((declarators_keeps h hdeclared).node rfl) (by decide)
      (by simp only [sources, *])
  · obtain ⟨type, _, read⟩ := bind_eq_ok.1 read
    obtain ⟨declared, hdeclared, read⟩ := bind_eq_ok.1 read
    obtain rfl := pure_eq_ok.1 read
    exact keeps_of_type ‹_› covered ((declarators_keeps h hdeclared).node rfl) (by decide)
      (by simp only [sources, *])
  · exact keeps_of_type ‹_› covered (method_keeps h read) (by decide) (by simp only [sources, *])
  · obtain ⟨name, _, read⟩ := bind_eq_ok.1 read
    obtain ⟨parameters, _, read⟩ := bind_eq_ok.1 read
    obtain ⟨body, hbody, read⟩ := bind_eq_ok.1 read
    obtain rfl := pure_eq_ok.1 read
    exact keeps_of_type ‹_› covered ((constructorBody_keeps h hbody).node rfl) (by decide)
      (by simp only [sources, *])
  · obtain ⟨name, _, read⟩ := bind_eq_ok.1 read
    obtain ⟨body, hbody, read⟩ := bind_eq_ok.1 read
    obtain rfl := pure_eq_ok.1 read
    exact keeps_of_type ‹_› covered ((constructorBody_keeps h hbody).node rfl) (by decide)
      (by simp only [sources, *])
  · obtain ⟨c, hc, read⟩ := bind_eq_ok.1 read
    obtain ⟨body, hbody, read⟩ := bind_eq_ok.1 read
    obtain rfl := pure_eq_ok.1 read
    have hc := found_eq_ok.1 hc
    have keeps : r.Keeps t.blockStatements [body] := by
      rw [blockStatements, hc, Option.toList_some, List.flatMap_singleton]
      exact (h.child (mem_children_of_find?_namedChildren hc)).block hbody
    exact keeps_of_type ‹_› covered (keeps.node rfl) (by decide) (by simp only [sources, *])
  · obtain ⟨body, hbody, read⟩ := bind_eq_ok.1 read
    obtain rfl := pure_eq_ok.1 read
    exact keeps_of_type ‹_› covered ((h.block hbody).node rfl) (by decide)
      (by simp only [sources, *])
  · exact keeps_of_type ‹_› covered (annotationMember_keeps h read) (by decide)
      (by simp only [sources, *])
  · cases read
  · cases read
  · cases read

theorem simpleStatement_keeps (h : r.KeepsBelow t) (covered : t.Covered)
    (read : r.simpleStatement t = .ok n) : r.Keeps [t] [n] := by
  rw [simpleStatement_eq] at read
  split at read
  · obtain ⟨e, he, read⟩ := bind_eq_ok.1 read
    obtain rfl := pure_eq_ok.1 read
    exact keeps_of_type ‹_› covered ((soleExpression_keeps h he).node rfl) (by decide)
      (by simp only [sources, *])
  · obtain ⟨e, he, read⟩ := bind_eq_ok.1 read
    obtain rfl := pure_eq_ok.1 read
    exact keeps_of_type ‹_› covered ((soleExpression_keeps h he).node rfl) (by decide)
      (by simp only [sources, *])
  · obtain ⟨e, he, read⟩ := bind_eq_ok.1 read
    obtain rfl := pure_eq_ok.1 read
    exact keeps_of_type ‹_› covered ((soleExpression_keeps h he).node rfl) (by decide)
      (by simp only [sources, *])
  · obtain rfl := pure_eq_ok.1 read
    exact keeps_of_type ‹_› covered (Keeps.nil.node rfl) (by decide) (by simp only [sources, *])
  · obtain rfl := pure_eq_ok.1 read
    exact keeps_of_type ‹_› covered (Keeps.nil.node rfl) (by decide) (by simp only [sources, *])
  · exact keeps_of_type ‹_› covered (returnOf_keeps h read) (by decide) (by simp only [sources, *])
  · exact keeps_of_type ‹_› covered (assertionOf_keeps h read) (by decide)
      (by simp only [sources, *])
  · obtain ⟨arguments, harguments, read⟩ := bind_eq_ok.1 read
    obtain rfl := pure_eq_ok.1 read
    exact keeps_of_type ‹_› covered ((arguments_keeps h harguments).node rfl) (by decide)
      (by simp only [sources, *])
  · cases read

theorem statement_keeps (h : r.KeepsBelow t) (covered : t.Covered)
    (read : r.statement t = .ok n) : r.Keeps [t] [n] := by
  rw [statement_eq] at read
  split at read
  · exact typeDeclaration_keeps h covered read
  split at read
  · exact keeps_of_type ‹_› covered (h.block read) (by decide) (by simp only [sources, *])
  · obtain rfl := pure_eq_ok.1 read
    exact keeps_of_type ‹_› covered (Keeps.nil.node rfl) (by decide) (by simp only [sources, *])
  · obtain ⟨type, _, read⟩ := bind_eq_ok.1 read
    obtain ⟨declared, hdeclared, read⟩ := bind_eq_ok.1 read
    obtain rfl := pure_eq_ok.1 read
    exact keeps_of_type ‹_› covered ((declarators_keeps h hdeclared).node rfl) (by decide)
      (by simp only [sources, *])
  · obtain ⟨label, _, read⟩ := bind_eq_ok.1 read
    obtain ⟨last, hlast, read⟩ := bind_eq_ok.1 read
    obtain ⟨body, hbody, read⟩ := bind_eq_ok.1 read
    obtain rfl := pure_eq_ok.1 read
    have hlast := placed_eq_ok.1 hlast
    have keeps : r.Keeps t.children.getLast?.toList [body] := by
      rw [hlast]
      exact h.statement (beneath_of_mem_children (List.mem_of_getLast? hlast)) body hbody
    exact keeps_of_type ‹_› covered (keeps.node rfl) (by decide) (by simp only [sources, *])
  · exact keeps_of_type ‹_› covered (ifStatement_keeps h read) (by decide)
      (by simp only [sources, *])
  · obtain ⟨condition, keepsCondition, read⟩ := h.requiredExpression read
    obtain ⟨body, keepsBody, read⟩ := h.requiredStatement read
    obtain rfl := pure_eq_ok.1 read
    exact keeps_of_type ‹_› covered ((keepsCondition.append keepsBody).node rfl) (by decide)
      (by simp only [sources, *])
  · obtain ⟨body, keepsBody, read⟩ := h.requiredStatement read
    obtain ⟨condition, keepsCondition, read⟩ := h.requiredExpression read
    obtain rfl := pure_eq_ok.1 read
    exact keeps_of_type ‹_› covered ((keepsBody.append keepsCondition).node rfl) (by decide)
      (by simp only [sources, *])
  · exact keeps_of_type ‹_› covered (forStatement_keeps h read) (by decide)
      (by simp only [sources, *])
  · obtain ⟨type, _, read⟩ := bind_eq_ok.1 read
    obtain ⟨name, _, read⟩ := bind_eq_ok.1 read
    obtain ⟨value, keepsValue, read⟩ := h.requiredExpression read
    obtain ⟨body, keepsBody, read⟩ := h.requiredStatement read
    obtain rfl := pure_eq_ok.1 read
    exact keeps_of_type ‹_› covered ((keepsValue.append keepsBody).node rfl) (by decide)
      (by simp only [sources, *])
  · obtain ⟨first, hfirst, read⟩ := bind_eq_ok.1 read
    obtain ⟨lock, hlock, read⟩ := bind_eq_ok.1 read
    obtain ⟨body, keepsBody, read⟩ := h.requiredBlock read
    obtain rfl := pure_eq_ok.1 read
    have keepsLock := firstPart_keeps h (placed_eq_ok.1 hfirst) hlock
    exact keeps_of_type ‹_› covered ((keepsLock.append keepsBody).node rfl) (by decide)
      (by simp only [sources, bodyStatements, *])
  · exact keeps_of_type ‹_› covered (tryStatement_keeps h read) (by decide)
      (by simp only [sources, *])
  · exact keeps_of_type ‹_› covered (tryStatement_keeps h read) (by decide)
      (by simp only [sources, *])
  · rename_i type
    obtain ⟨selector, entries, keeps, read⟩ := switch_keeps h read
    obtain rfl := pure_eq_ok.1 read
    have look : t.sources = t.fieldTree "condition" ++
        (t.fieldTree "body").flatMap fun b => b.namedChildren.flatMap partsOfEntries := by
      simp only [sources, type]
    have form : t.holdsCode = true := by simp [holdsCode, type]
    exact Keeps.of_readAs (look ▸ keeps) covered form ⟨rfl, type⟩ rfl
  · exact simpleStatement_keeps h covered read

end Functions

/-! ## Trees of any size -/

/-- Where the reader looks everywhere, it keeps all the code below a tree. -/
theorem keepsBelow_of_covered {t : ParseTree} (covered : ∀ u ∈ t.walk, u.Covered) :
    ∀ u ∈ t.walk, r.KeepsBelow u := by
  induction t using ParseTree.induction with
  | step t ih =>
    have below {u : ParseTree} : t.Beneath u → r.KeepsBelow u := fun ⟨c, hc, hu⟩ =>
      ih c hc (fun v hv => covered v (mem_walk_of_below hc hv)) u hu
    intro u hu
    rw [walk_eq, List.mem_cons, List.mem_flatMap] at hu
    rcases hu with rfl | hu
    · exact
        { expression := fun hu _ => expression_keeps (below hu) (covered _ hu.mem_walk)
          statement := fun hu _ => statement_keeps (below hu) (covered _ hu.mem_walk)
          member := fun hu _ _ => member_keeps (below hu) (covered _ hu.mem_walk) }
    · exact below hu

/-- No code-holding tree is lost where the reader looks everywhere: each one outside annotations
becomes a node of its own, of its form and with its span, and no other node holds code. -/
theorem code_kept {t : ParseTree} {n : Node}
    (read : r.statement t = .ok n ∨ r.expression t = .ok n)
    (covered : ∀ u ∈ t.walk, u.Covered) :
    ∃ trees : List ParseTree, t.held.Subperm trees ∧ trees.Subperm t.code ∧
      List.Forall₂ r.ReadAs trees n.codeNodes := by
  have below : r.KeepsBelow t := keepsBelow_of_covered covered t t.mem_walk_self
  have self : t.Covered := covered t t.mem_walk_self
  have keeps : r.Keeps [t] [n] := by
    rcases read with read | read
    · exact statement_keeps below self read
    · exact expression_keeps below self read
  unfold Keeps at keeps
  simpa only [List.flatMap_singleton] using keeps

section Kept

def keptSource : SourceText :=
  .ofString "f(()->\x7bswitch(x)\x7b\x7d\x7d);"

def keptReading : Reading := ⟨"A.java", keptSource⟩

def keptSelector : ParseTree :=
  ⟨"parenthesized_expression", true, false, 13, 16, some "condition",
    [⟨"(", false, false, 13, 14, none, []⟩, ⟨"identifier", true, false, 14, 15, none, []⟩,
      ⟨")", false, false, 15, 16, none, []⟩]⟩

def keptEntries : ParseTree :=
  ⟨"switch_block", true, false, 16, 18, some "body",
    [⟨"\x7b", false, false, 16, 17, none, []⟩, ⟨"\x7d", false, false, 17, 18, none, []⟩]⟩

def keptSwitch : ParseTree :=
  ⟨"switch_expression", true, false, 7, 18, none,
    [⟨"switch", false, false, 7, 13, none, []⟩, keptSelector, keptEntries]⟩

def keptBlock : ParseTree :=
  ⟨"block", true, false, 6, 19, some "body",
    [⟨"\x7b", false, false, 6, 7, none, []⟩, keptSwitch, ⟨"\x7d", false, false, 18, 19, none, []⟩]⟩

def keptLambda : ParseTree :=
  ⟨"lambda_expression", true, false, 2, 19, none,
    [⟨"formal_parameters", true, false, 2, 4, some "parameters",
        [⟨"(", false, false, 2, 3, none, []⟩, ⟨")", false, false, 3, 4, none, []⟩]⟩,
      ⟨"->", false, false, 4, 6, none, []⟩, keptBlock]⟩

def keptCall : ParseTree :=
  ⟨"method_invocation", true, false, 0, 20, none,
    [⟨"identifier", true, false, 0, 1, some "name", []⟩,
      ⟨"argument_list", true, false, 1, 20, some "arguments",
        [⟨"(", false, false, 1, 2, none, []⟩, keptLambda,
          ⟨")", false, false, 19, 20, none, []⟩]⟩]⟩

def keptStatement : ParseTree :=
  ⟨"expression_statement", true, false, 0, 21, none,
    [keptCall, ⟨";", false, false, 20, 21, none, []⟩]⟩

def keptSwitchNode : Node :=
  .bare (.ofLines 1 8 1 18)
    (.switchStatement (.bare (.ofLines 1 14 1 16) (.plainExpression [])) [])

def keptLambdaNode : Node :=
  .bare (.ofLines 1 3 1 19) (.lambda (.bare (.ofLines 1 7 1 19) (.block [keptSwitchNode])))

def keptNode : Node :=
  .bare (.ofLines 1 1 1 21)
    (.expressionStatement (.bare (.ofLines 1 1 1 20) (.plainExpression [keptLambdaNode])))

theorem statement_keptSwitch : keptReading.statement keptSwitch = .ok keptSwitchNode := by
  have nested : outermostCode keptSelector.namedChildren = [] := by
    simp [keptSelector, namedChildren, outermostCode, holdsCode]
  have selector : keptReading.expression keptSelector =
      .ok (.bare (.ofLines 1 14 1 16) (.plainExpression [])) := by
    rw [expression_eq]
    show keptReading.plainExpression keptSelector = _
    rw [plainExpression_eq, nested]
    rfl
  have entries : keptReading.switchEntries keptEntries = .ok [] := by
    rw [switchEntries_eq]
    rfl
  rw [statement_eq]
  show (do
    let selector ← keptReading.expression keptSelector
    let entries ← keptReading.switchEntries keptEntries
    return keptReading.node keptSwitch (.switchStatement selector entries)) = _
  rw [selector, entries]
  rfl

theorem expression_keptLambda : keptReading.expression keptLambda = .ok keptLambdaNode := by
  have block : keptReading.block keptBlock =
      .ok (.bare (.ofLines 1 7 1 19) (.block [keptSwitchNode])) := by
    rw [block_eq]
    show (do
      return keptReading.node keptBlock
        (.block (← [keptSwitch].mapM keptReading.statement))) = _
    rw [List.mapM_cons, statement_keptSwitch]
    rfl
  rw [expression_eq]
  show (do return keptReading.node keptLambda (.lambda (← keptReading.block keptBlock))) = _
  rw [block]
  rfl

theorem statement_keptStatement : keptReading.statement keptStatement = .ok keptNode := by
  have nested : outermostCode keptCall.namedChildren = [keptLambda] := by
    simp [keptCall, keptLambda, namedChildren, outermostCode, holdsCode]
  have call : keptReading.expression keptCall =
      .ok (.bare (.ofLines 1 1 1 20) (.plainExpression [keptLambdaNode])) := by
    rw [expression_eq]
    show keptReading.plainExpression keptCall = _
    rw [plainExpression_eq, nested, List.mapM_cons, expression_keptLambda]
    rfl
  rw [statement_eq]
  show keptReading.simpleStatement keptStatement = _
  rw [simpleStatement_eq]
  show (do
    return keptReading.node keptStatement
      (.expressionStatement (← keptReading.soleExpression keptStatement))) = _
  rw [soleExpression_eq]
  show (do
    return keptReading.node keptStatement
      (.expressionStatement (← keptReading.expression keptCall))) = _
  rw [call]
  rfl

theorem shaped_keptStatement : ∀ u ∈ keptStatement.walk, u.Shaped := by
  refine shaped_of_partwise fun u hu => ?_
  have partwise : keptStatement.walk.filter (·.type ∈ partwise) =
      [keptStatement, keptLambda, keptBlock, keptSwitch, ⟨";", false, false, 20, 21, none, []⟩] :=
    rfl
  rw [partwise] at hu
  simp only [List.mem_cons, List.not_mem_nil, or_false] at hu
  rcases hu with rfl | rfl | rfl | rfl | rfl
  · have form : (keptStatement.type, 1) ∈ leadingForms := by decide
    exact .leading form (by decide) (by decide)
  · exact .lambda rfl (by decide) (by decide) (by decide)
  · exact .block rfl (by decide)
  · refine .switch rfl (by decide) (by decide) (by decide) fun b hb c hc => ?_
    obtain rfl : b = keptEntries := List.mem_singleton.1 hb
    exact absurd hc List.not_mem_nil
  · exact .leaf (by decide) (by decide)

theorem covered_keptStatement : ∀ u ∈ keptStatement.walk, u.Covered :=
  covered_of_shaped shaped_keptStatement

theorem code_kept_keptStatement :
    keptReading.statement keptStatement = .ok keptNode ∧ (∀ u ∈ keptStatement.walk, u.Covered) ∧
      keptStatement.held = [keptLambda, keptSwitch] ∧
      ∃ trees : List ParseTree, keptStatement.held.Subperm trees ∧
        trees.Subperm keptStatement.code ∧
        List.Forall₂ keptReading.ReadAs trees keptNode.codeNodes :=
  ⟨statement_keptStatement, covered_keptStatement, rfl,
    code_kept (.inl statement_keptStatement) covered_keptStatement⟩

end Kept

/-! ## Code before a creation -/

section Lost

def lostSource : SourceText :=
  .ofString "class A\x7b\x7bf(()->\x7bg();\x7d).new B()\x7b\x7d;\x7d\x7d"

def lostReading : Reading := ⟨"A.java", lostSource⟩

def lostLambda : ParseTree :=
  ⟨"lambda_expression", true, false, 11, 21, none,
    [⟨"formal_parameters", true, false, 11, 13, some "parameters",
        [⟨"(", false, false, 11, 12, none, []⟩, ⟨")", false, false, 12, 13, none, []⟩]⟩,
      ⟨"->", false, false, 13, 15, none, []⟩,
      ⟨"block", true, false, 15, 21, some "body",
        [⟨"\x7b", false, false, 15, 16, none, []⟩,
          ⟨"expression_statement", true, false, 16, 20, none,
            [⟨"method_invocation", true, false, 16, 19, none,
                [⟨"identifier", true, false, 16, 17, some "name", []⟩,
                  ⟨"argument_list", true, false, 17, 19, some "arguments",
                    [⟨"(", false, false, 17, 18, none, []⟩,
                      ⟨")", false, false, 18, 19, none, []⟩]⟩]⟩,
              ⟨";", false, false, 19, 20, none, []⟩]⟩,
          ⟨"\x7d", false, false, 20, 21, none, []⟩]⟩]⟩

def lostCreation : ParseTree :=
  ⟨"object_creation_expression", true, false, 9, 32, none,
    [⟨"method_invocation", true, false, 9, 22, none,
        [⟨"identifier", true, false, 9, 10, some "name", []⟩,
          ⟨"argument_list", true, false, 10, 22, some "arguments",
            [⟨"(", false, false, 10, 11, none, []⟩, lostLambda,
              ⟨")", false, false, 21, 22, none, []⟩]⟩]⟩,
      ⟨".", false, false, 22, 23, none, []⟩, ⟨"new", false, false, 23, 26, none, []⟩,
      ⟨"type_identifier", true, false, 27, 28, some "type", []⟩,
      ⟨"argument_list", true, false, 28, 30, some "arguments",
        [⟨"(", false, false, 28, 29, none, []⟩, ⟨")", false, false, 29, 30, none, []⟩]⟩,
      ⟨"class_body", true, false, 30, 32, none,
        [⟨"\x7b", false, false, 30, 31, none, []⟩, ⟨"\x7d", false, false, 31, 32, none, []⟩]⟩]⟩

theorem expression_lostCreation : lostReading.expression lostCreation =
    .ok (.bare (.ofLines 1 10 1 32) (.objectCreation "B" [] (some []))) := by
  have arguments : lostReading.arguments lostCreation = .ok [] := by
    rw [arguments_eq]
    rfl
  have members (components : List Parameter) : lostReading.members components
      ⟨"class_body", true, false, 30, 32, none,
        [⟨"\x7b", false, false, 30, 31, none, []⟩, ⟨"\x7d", false, false, 31, 32, none, []⟩]⟩ =
      .ok [] := by
    rw [members_eq]
    rfl
  rw [expression_eq]
  show (do
    let type ← lostReading.fieldText lostCreation "type"
    let arguments ← lostReading.arguments lostCreation
    return lostReading.node lostCreation
      (.objectCreation type arguments (some (← lostReading.members [] _)))) = _
  rw [arguments, members]
  rfl

/-- The lambda before the word "new" of a creation with a class body has no node. -/
theorem code_lost_lostCreation :
    ∃ n, lostReading.expression lostCreation = .ok n ∧ lostLambda ∈ lostCreation.held ∧
      ∀ m ∈ n.walk, ¬lostReading.ReadAs lostLambda m := by
  refine ⟨_, expression_lostCreation, ?_, fun m hm read => ?_⟩
  · have held : lostCreation.held = [lostCreation, lostLambda] := rfl
    rw [held]
    exact List.mem_cons_of_mem _ (List.mem_singleton_self _)
  · rw [Node.walk_eq, List.mem_cons] at hm
    obtain rfl := hm.resolve_right List.not_mem_nil
    have type : lostLambda.type = "object_creation_expression" := read.form
    exact absurd type (by decide)

end Lost

end Reading

end JavaCensus
