import JavaCensus.Proofs.Features
import JavaCensus.Proofs.Levels

/-!
# Complete trees

For trees of some types the reader counts on parts that the grammar gives them, and it has no error
of its own for a tree without one. A unit all of whose trees have these parts is read, or it is
refused under its name.
-/
namespace JavaCensus

namespace ParseTree

/-- The fields that the reader counts on, for each type of trees. -/
def neededFields : String → List String
  | "lambda_expression" | "constructor_declaration" | "compact_constructor_declaration"
  | "catch_clause" | "for_statement" | "synchronized_statement" | "try_statement"
  | "try_with_resources_statement" => ["body"]
  | "switch_expression" | "while_statement" | "do_statement" => ["condition", "body"]
  | "enhanced_for_statement" => ["value", "body"]
  | "if_statement" => ["condition", "consequence"]
  | _ => []

/-- The types of which the reader counts on a named child. -/
def neededTypes : String → List String
  | "switch_rule" => ["switch_label"]
  | "catch_clause" => ["catch_formal_parameter"]
  | "catch_formal_parameter" => ["catch_type"]
  | "finally_clause" | "static_initializer" => ["block"]
  | "labeled_statement" => ["identifier"]
  | _ => []

/-- The tree has what the reader counts on for its type. -/
structure Complete (t : ParseTree) : Prop where
  fields : ∀ f ∈ neededFields t.type, (t.field? f).isSome
  types : ∀ type ∈ neededTypes t.type, (t.namedChildren.find? (·.type == type)).isSome
  part : t.type ∈ ["assert_statement", "synchronized_statement"] →
    ∃ c ∈ t.namedChildren, c.isComment = false
  spread : t.type = "spread_parameter" →
    ∃ c ∈ t.namedChildren, c.isComment = false ∧ c.type ≠ "modifiers"

instance (t : ParseTree) : Decidable t.Complete :=
  decidable_of_iff (_ ∧ _ ∧ _ ∧ _)
    ⟨fun ⟨fields, types, part, spread⟩ => ⟨fields, types, part, spread⟩,
      fun h => ⟨h.fields, h.types, h.part, h.spread⟩⟩

namespace Complete

variable {t : ParseTree}

theorem field (h : t.Complete) {type name : String} (is : t.type = type)
    (needed : name ∈ neededFields type) : (t.field? name).isSome :=
  h.fields name (is ▸ needed)

theorem child (h : t.Complete) {type name : String} (is : t.type = type)
    (needed : name ∈ neededTypes type) : (t.namedChildren.find? (·.type == name)).isSome :=
  h.types name (is ▸ needed)

theorem parts_ne_nil (h : t.Complete)
    (needed : t.type ∈ ["assert_statement", "synchronized_statement"]) :
    t.parts.map (·.tree) ≠ [] := by
  obtain ⟨c, hc, plain⟩ := h.part needed
  rw [parts_eq]
  exact List.ne_nil_of_mem (List.mem_filter.2 ⟨hc, by simp [plain]⟩)

end Complete

end ParseTree

namespace Reading

open ParseTree

variable {r : Reading} {α β : Type}

/-- The reader gives a value or refuses the unit. -/
def Settles (r : Reading) (x : Read α) : Prop :=
  ∀ e, x = .error e → ∃ cause line, e = .rejected r.unit cause line

namespace Settles

theorem ok (a : α) : r.Settles (.ok a) :=
  nofun

theorem refused (cause : Rejection) (line : Option Nat) :
    r.Settles (.error (.rejected r.unit cause line) : Read α) :=
  fun _ h => ⟨cause, line, (Except.error.inj h).symm⟩

theorem reject (t : ParseTree) (cause : Rejection) : r.Settles (r.reject t cause : Read α) :=
  refused _ _

theorem bind {x : Read α} {f : α → Read β} (first : r.Settles x)
    (rest : ∀ a, x = .ok a → r.Settles (f a)) : r.Settles (x >>= f) := by
  cases x with
  | error e => exact fun _ h => first _ (by cases h; rfl)
  | ok a => exact rest a rfl

theorem bind_pure {x : Read α} {f : α → β} (first : r.Settles x) :
    r.Settles (x >>= fun a => pure (f a)) :=
  first.bind fun _ _ => .ok _

theorem map {x : Read α} (f : α → β) (h : r.Settles x) : r.Settles (f <$> x) := by
  rw [map_eq_pure_bind]
  exact h.bind_pure

theorem mapM {f : ParseTree → Read α} {ts : List ParseTree} (each : ∀ t ∈ ts, r.Settles (f t)) :
    r.Settles (ts.mapM f) := by
  induction ts with
  | nil => exact .ok []
  | cons t ts ih =>
    rw [List.mapM_cons]
    exact (each t (List.mem_cons_self ..)).bind fun _ _ =>
      (ih fun u hu => each u (List.mem_cons_of_mem _ hu)).bind_pure

theorem optional {f : ParseTree → Read α} {o : Option ParseTree}
    (each : ∀ c ∈ o, r.Settles (f c)) : r.Settles (o.mapM f) := by
  cases o with
  | none => exact .ok none
  | some c => exact (each c rfl).map some

theorem fieldText (t : ParseTree) (field : String) : r.Settles (r.fieldText t field) := by
  unfold Reading.fieldText
  split
  · exact .ok _
  · exact .reject _ _

/-! What is there is what the rest goes on with. -/

variable {o : Option ParseTree} {f : ParseTree → Read α}

theorem required (there : o.isSome) (rest : ∀ c ∈ o, r.Settles (f c)) :
    r.Settles (JavaCensus.required o >>= f) := by
  obtain ⟨c, rfl⟩ := Option.isSome_iff_exists.1 there
  exact rest c rfl

theorem found (there : o.isSome) (rest : ∀ c ∈ o, r.Settles (f c)) :
    r.Settles (JavaCensus.found o >>= f) := by
  obtain ⟨c, rfl⟩ := Option.isSome_iff_exists.1 there
  exact rest c rfl

theorem placed (there : o.isSome) (rest : ∀ c ∈ o, r.Settles (f c)) :
    r.Settles (JavaCensus.placed o >>= f) := by
  obtain ⟨c, rfl⟩ := Option.isSome_iff_exists.1 there
  exact rest c rfl

end Settles

/-! ## Trees below which everything is settled -/

/-- All trees at and below are complete, and those below are read or refused. -/
structure SettlesBelow (r : Reading) (t : ParseTree) : Prop where
  complete : ∀ u ∈ t.walk, u.Complete
  expression : ∀ {u}, t.Beneath u → r.Settles (r.expression u)
  statement : ∀ {u}, t.Beneath u → r.Settles (r.statement u)
  member : ∀ {u}, t.Beneath u → ∀ components, r.Settles (r.member components u)

section Functions

variable {t : ParseTree}

namespace SettlesBelow

theorem self (h : r.SettlesBelow t) : t.Complete :=
  h.complete t t.mem_walk_self

theorem beneath (h : r.SettlesBelow t) {c : ParseTree} (hc : t.Beneath c) :
    r.SettlesBelow c := by
  obtain ⟨d, hd, hc⟩ := hc
  exact
    { complete := fun u hu => h.complete u (mem_walk_of_below hd (mem_walk_trans hc hu))
      expression := fun hu => h.expression ⟨d, hd, mem_walk_trans hc hu.mem_walk⟩
      statement := fun hu => h.statement ⟨d, hd, mem_walk_trans hc hu.mem_walk⟩
      member := fun hu => h.member ⟨d, hd, mem_walk_trans hc hu.mem_walk⟩ }

theorem child (h : r.SettlesBelow t) {c : ParseTree} (hc : c ∈ t.children) : r.SettlesBelow c :=
  h.beneath (beneath_of_mem_children hc)

theorem fieldExpression (h : r.SettlesBelow t) {name : String} :
    ∀ c ∈ t.field? name, r.Settles (r.expression c) :=
  fun _ hc => h.expression (beneath_of_mem_children (mem_children_of_field? hc))

theorem fieldStatement (h : r.SettlesBelow t) {name : String} :
    ∀ c ∈ t.field? name, r.Settles (r.statement c) :=
  fun _ hc => h.statement (beneath_of_mem_children (mem_children_of_field? hc))

theorem statements (h : r.SettlesBelow t) (skip : List String) :
    r.Settles ((t.statementTrees skip).mapM r.statement) :=
  .mapM fun _ hu => h.statement (beneath_of_mem_children (mem_children_of_mem_statementTrees hu))

theorem block (h : r.SettlesBelow t) : r.Settles (r.block t) := by
  rw [block_eq]
  exact (h.statements _).bind_pure

theorem fieldBlock (h : r.SettlesBelow t) {name : String} :
    ∀ c ∈ t.field? name, r.Settles (r.block c) :=
  fun _ hc => (h.child (mem_children_of_field? hc)).block

theorem members (h : r.SettlesBelow t) (components : List Parameter) :
    r.Settles (r.members components t) := by
  rw [members_eq]
  exact .mapM fun _ hu => h.member (beneath_of_mem_parts hu) components

end SettlesBelow

/-! ## Expressions -/

theorem plainExpression_settles (h : r.SettlesBelow t) : r.Settles (r.plainExpression t) := by
  rw [plainExpression_eq]
  exact (Settles.mapM fun _ hu => h.expression (beneath_of_mem_nestedCode hu)).bind_pure

theorem arguments_settles (h : r.SettlesBelow t) : r.Settles (r.arguments t) := by
  rw [arguments_eq]
  exact .mapM fun _ hu => h.expression (beneath_of_mem_argumentTrees hu)

theorem declarators_settles (h : r.SettlesBelow t) : r.Settles (r.declarators t) := by
  rw [declarators_eq]
  refine .mapM fun c hc => (Settles.fieldText _ _).bind fun name _ => ?_
  have h := h.child (mem_children_of_mem_fieldsBelow hc)
  exact (Settles.optional h.fieldExpression).bind_pure

theorem switchEntry_settles {label : ParseTree} (h : r.SettlesBelow label) (span : Span)
    (statements : List Node) : r.Settles (r.switchEntry label span statements) := by
  rw [switchEntry_eq]
  exact (Settles.mapM fun _ hu => h.expression (beneath_of_mem_parts hu)).bind_pure

theorem groupOf_settles (statements : List Node) {labels : List ParseTree}
    (h : ∀ label ∈ labels, r.SettlesBelow label) : r.Settles (r.groupOf t statements labels) := by
  induction labels with
  | nil => exact .ok []
  | cons label rest ih =>
    have ih := ih fun l hl => h l (List.mem_cons_of_mem _ hl)
    have first := switchEntry_settles (h label (List.mem_cons_self ..))
    cases rest with
    | nil => exact (first _ _).bind_pure
    | cons other rest => exact (first _ _).bind fun _ _ => ih.bind_pure

theorem entriesOf_settles (h : r.SettlesBelow t) : r.Settles (r.entriesOf t) := by
  unfold entriesOf
  split
  · refine (h.statements _).bind fun statements _ => groupOf_settles statements fun label hl => ?_
    exact h.child (mem_children_of_mem_namedChildren (List.mem_of_mem_filter hl))
  · rename_i type
    refine .found (h.self.child type (by decide)) fun label hl => ?_
    have label := switchEntry_settles (h.child (mem_children_of_find?_namedChildren hl))
    exact (h.statements _).bind fun _ _ => (label _ _).bind_pure
  · exact .ok []

theorem switchEntries_settles (h : r.SettlesBelow t) : r.Settles (r.switchEntries t) := by
  rw [switchEntries_eq]
  exact .map _ (.mapM fun c hc =>
    entriesOf_settles (h.child (mem_children_of_mem_namedChildren hc)))

theorem fieldEntries (h : r.SettlesBelow t) {name : String} :
    ∀ c ∈ t.field? name, r.Settles (r.switchEntries c) :=
  fun _ hc => switchEntries_settles (h.child (mem_children_of_field? hc))

theorem lambdaOf_settles (h : r.SettlesBelow t) (type : t.type = "lambda_expression") :
    r.Settles (r.lambdaOf t) := by
  refine .required (h.self.field type (by decide)) fun body hbody => ?_
  split
  · exact (h.fieldBlock body hbody).bind_pure
  · exact (h.fieldExpression body hbody).bind_pure

theorem creationOf_settles (h : r.SettlesBelow t) : r.Settles (r.creationOf t) := by
  unfold creationOf
  split
  · rename_i body hbody
    have h' := h.child (mem_children_of_find?_namedChildren hbody)
    refine (Settles.fieldText _ _).bind fun _ _ => ?_
    exact (arguments_settles h).bind fun _ _ => (h'.members []).bind_pure
  · exact plainExpression_settles h

theorem expression_settles (h : r.SettlesBelow t) : r.Settles (r.expression t) := by
  rw [expression_eq]
  split
  · exact lambdaOf_settles h ‹_›
  · rename_i type
    refine .required (h.self.field type (by decide)) fun c hc => ?_
    refine (h.fieldExpression c hc).bind fun _ _ => ?_
    exact .required (h.self.field type (by decide)) fun c hc => (fieldEntries h c hc).bind_pure
  · exact creationOf_settles h
  · exact plainExpression_settles h

/-! ## Statements -/

theorem tryPartOf_settles (h : r.SettlesBelow t) : r.Settles (r.tryPartOf t) := by
  unfold tryPartOf
  split
  · rename_i type
    refine .found (h.self.child type (by decide)) fun parameter hp => ?_
    have is : parameter.type = "catch_formal_parameter" := by
      simpa using List.find?_some hp
    have complete := (h.child (mem_children_of_find?_namedChildren hp)).self
    refine .found (complete.child is (by decide)) fun _ _ => ?_
    refine (Settles.fieldText _ _).bind fun _ _ => ?_
    exact .required (h.self.field type (by decide)) fun c hc => (h.fieldBlock c hc).bind_pure
  · rename_i type
    refine .found (h.self.child type (by decide)) fun body hbody => ?_
    exact (h.child (mem_children_of_find?_namedChildren hbody)).block.bind_pure
  · exact .ok none

theorem tryStatement_settles (h : r.SettlesBelow t)
    (type : t.type ∈ ["try_statement", "try_with_resources_statement"]) :
    r.Settles (r.tryStatement t) := by
  have body : (t.field? "body").isSome := by
    simp only [List.mem_cons, List.not_mem_nil, or_false] at type
    rcases type with type | type <;> exact h.self.field type (by decide)
  rw [tryStatement_eq]
  refine (Settles.mapM fun c hc => ?_).bind fun _ _ => ?_
  · have h := h.beneath (beneath_of_mem_resourceTrees hc)
    exact (Settles.optional h.fieldExpression).bind_pure
  refine (Settles.map _ (.mapM fun c hc => ?_)).bind fun _ _ => ?_
  · exact tryPartOf_settles (h.child (mem_children_of_mem_namedChildren hc))
  · exact .required body fun c hc => (h.fieldBlock c hc).bind_pure

theorem forStatement_settles (h : r.SettlesBelow t) (type : t.type = "for_statement") :
    r.Settles (r.forStatement t) := by
  have field {name : String} {c : ParseTree}
      (hc : c ∈ (t.fieldsBelow name).map (·.tree)) : t.Beneath c :=
    beneath_of_mem_children (mem_children_of_mem_fieldsBelow hc)
  rw [forStatement_eq]
  refine (Settles.mapM fun c hc => ?_).bind fun _ _ => ?_
  · split
    · exact h.statement (field hc)
    · exact h.expression (field hc)
  refine .required (h.self.field type (by decide)) fun c hc => ?_
  refine (h.fieldStatement c hc).bind fun _ _ => ?_
  refine (Settles.optional h.fieldExpression).bind fun _ _ => ?_
  exact (Settles.mapM fun c hc => h.expression (field hc)).bind_pure

theorem ifStatement_settles (h : r.SettlesBelow t) (type : t.type = "if_statement") :
    r.Settles (r.ifStatement t) := by
  rw [ifStatement_eq]
  refine .required (h.self.field type (by decide)) fun c hc => ?_
  refine (h.fieldExpression c hc).bind fun _ _ => ?_
  refine .required (h.self.field type (by decide)) fun c hc => ?_
  refine (h.fieldStatement c hc).bind fun _ _ => ?_
  exact (Settles.optional h.fieldStatement).bind_pure

theorem part_settles (h : r.SettlesBelow t) {c : ParseTree} (hc : c ∈ t.parts.map (·.tree)) :
    r.Settles (r.expression c) :=
  h.expression (beneath_of_mem_parts hc)

theorem soleExpression_settles (h : r.SettlesBelow t) : r.Settles (r.soleExpression t) := by
  rw [soleExpression_eq]
  split
  · exact .reject _ _
  · rename_i hparts
    exact part_settles h (hparts ▸ List.mem_cons_self ..)

theorem returnOf_settles (h : r.SettlesBelow t) : r.Settles (r.returnOf t) := by
  unfold returnOf
  split
  · exact .ok _
  · rename_i hparts
    exact (part_settles h (hparts ▸ List.mem_cons_self ..)).bind_pure

theorem assertionOf_settles (h : r.SettlesBelow t) (type : t.type = "assert_statement") :
    r.Settles (r.assertionOf t) := by
  unfold assertionOf
  split
  · rename_i hparts
    exact absurd hparts (h.self.parts_ne_nil (by rw [type]; decide))
  · rename_i hparts
    exact (part_settles h (hparts ▸ List.mem_cons_self ..)).bind_pure
  · rename_i hparts
    refine (part_settles h (hparts ▸ List.mem_cons_self ..)).bind fun _ _ => ?_
    exact (part_settles h
      (hparts ▸ List.mem_cons_of_mem _ (List.mem_cons_self ..))).bind_pure

theorem simpleStatement_settles (h : r.SettlesBelow t) : r.Settles (r.simpleStatement t) := by
  rw [simpleStatement_eq]
  split
  · exact (soleExpression_settles h).bind_pure
  · exact (soleExpression_settles h).bind_pure
  · exact (soleExpression_settles h).bind_pure
  · exact .ok _
  · exact .ok _
  · exact returnOf_settles h
  · exact assertionOf_settles h ‹_›
  · exact (arguments_settles h).bind_pure
  · exact .reject _ _

/-! ## Types and members -/

theorem spreadParameter_settles (complete : t.Complete) (type : t.type = "spread_parameter") :
    r.Settles (r.spreadParameter t) := by
  obtain ⟨c, hc, plain, other⟩ := complete.spread type
  have hc : c ∈ t.namedChildren.filter fun c => !c.isComment && c.type != "modifiers" :=
    List.mem_filter.2 ⟨hc, by simp [plain, other]⟩
  unfold spreadParameter
  dsimp only
  revert hc
  cases t.namedChildren.filter fun c => !c.isComment && c.type != "modifiers" with
  | nil => exact nofun
  | cons d ds =>
    intro _
    rw [List.head?_cons, List.getLast?_cons]
    exact .ok _

theorem parameters_settles (h : r.SettlesBelow t) :
    r.Settles (r.parameters (t.field? "parameters")) := by
  unfold parameters
  split
  · exact .ok []
  · rename_i list hlist
    refine (Settles.mapM fun c hc => ?_).bind_pure
    have complete := ((h.child (mem_children_of_field? hlist)).child
      (mem_children_of_mem_namedChildren hc)).self
    unfold parameterOf
    split
    · exact .map _ ((Settles.fieldText _ _).bind fun _ _ => (Settles.fieldText _ _).bind_pure)
    · split
      · rename_i type
        exact .map _ (spreadParameter_settles complete (by simpa using type))
      · exact .ok none

theorem bodyMembers_settles (h : r.SettlesBelow t) (components : List Parameter) :
    r.Settles (r.bodyMembers components t) := by
  rw [bodyMembers_eq]
  exact .mapM fun _ hu => h.member (beneath_of_mem_memberTrees hu) components

theorem fieldMembers (h : r.SettlesBelow t) {name : String} :
    ∀ c ∈ t.field? name, r.Settles (r.members [] c) :=
  fun _ hc => (h.child (mem_children_of_field? hc)).members []

theorem enumConstant_settles (h : r.SettlesBelow t) : r.Settles (r.enumConstant t) := by
  rw [enumConstant_eq]
  refine (Settles.fieldText _ _).bind fun _ _ => (arguments_settles h).bind fun _ _ => ?_
  exact (Settles.optional (fieldMembers h)).bind_pure

theorem enumPartOf_settles (h : r.SettlesBelow t) : r.Settles (r.enumPartOf t) := by
  unfold enumPartOf
  split
  · exact (enumConstant_settles h).bind_pure
  · exact (h.members []).bind_pure
  · exact .ok none

theorem enumParts_settles (h : r.SettlesBelow t) : r.Settles (r.enumParts t) := by
  rw [enumParts_eq]
  refine .map _ (.mapM fun c hc => enumPartOf_settles ?_)
  cases hbody : t.field? "body" with
  | none =>
    rw [hbody] at hc
    cases hc
  | some body =>
    rw [hbody] at hc
    exact (h.child (mem_children_of_field? hbody)).child (mem_children_of_mem_namedChildren hc)

theorem typeDeclaration_settles (h : r.SettlesBelow t) : r.Settles (r.typeDeclaration t) := by
  rw [Reading.typeDeclaration]
  refine (Settles.fieldText _ _).bind fun name _ => ?_
  split
  · exact (bodyMembers_settles h _).bind_pure
  · exact (bodyMembers_settles h _).bind_pure
  · exact (bodyMembers_settles h _).bind_pure
  · exact (enumParts_settles h).bind_pure
  · exact (parameters_settles h).bind fun _ _ => (bodyMembers_settles h _).bind_pure
  · exact .reject _ _

theorem statement_settles (h : r.SettlesBelow t) : r.Settles (r.statement t) := by
  rw [statement_eq]
  split
  · exact typeDeclaration_settles h
  split
  · exact h.block
  · exact .ok _
  · exact (Settles.fieldText _ _).bind fun _ _ => (declarators_settles h).bind_pure
  · rename_i type
    refine .found (h.self.child type (by decide)) fun label hl => ?_
    have some : t.children.getLast?.isSome := by
      rw [List.getLast?_isSome]
      exact List.ne_nil_of_mem (mem_children_of_find?_namedChildren hl)
    exact .placed some fun last hlast =>
      (h.statement (beneath_of_mem_children (List.mem_of_getLast? hlast))).bind_pure
  · exact ifStatement_settles h ‹_›
  · rename_i type
    refine .required (h.self.field type (by decide)) fun c hc => ?_
    refine (h.fieldExpression c hc).bind fun _ _ => ?_
    exact .required (h.self.field type (by decide)) fun c hc => (h.fieldStatement c hc).bind_pure
  · rename_i type
    refine .required (h.self.field type (by decide)) fun c hc => ?_
    refine (h.fieldStatement c hc).bind fun _ _ => ?_
    exact .required (h.self.field type (by decide)) fun c hc => (h.fieldExpression c hc).bind_pure
  · exact forStatement_settles h ‹_›
  · rename_i type
    refine (Settles.fieldText _ _).bind fun _ _ => (Settles.fieldText _ _).bind fun _ _ => ?_
    refine .required (h.self.field type (by decide)) fun c hc => ?_
    refine (h.fieldExpression c hc).bind fun _ _ => ?_
    exact .required (h.self.field type (by decide)) fun c hc => (h.fieldStatement c hc).bind_pure
  · rename_i type
    have some : (t.parts.map (·.tree)).head?.isSome := by
      rw [List.isSome_head?]
      exact h.self.parts_ne_nil (by rw [type]; decide)
    refine .placed some fun lock hlock => ?_
    refine (part_settles h (List.mem_of_mem_head? hlock)).bind fun _ _ => ?_
    exact .required (h.self.field type (by decide)) fun c hc => (h.fieldBlock c hc).bind_pure
  · rename_i type
    exact tryStatement_settles h (by rw [type]; decide)
  · rename_i type
    exact tryStatement_settles h (by rw [type]; decide)
  · rename_i type
    refine .required (h.self.field type (by decide)) fun c hc => ?_
    refine (h.fieldExpression c hc).bind fun _ _ => ?_
    exact .required (h.self.field type (by decide)) fun c hc => (fieldEntries h c hc).bind_pure
  · exact simpleStatement_settles h

theorem constructorBody_settles (h : r.SettlesBelow t)
    (type : t.type ∈ ["constructor_declaration", "compact_constructor_declaration"]) :
    r.Settles (r.constructorBody t) := by
  have body : (t.field? "body").isSome := by
    simp only [List.mem_cons, List.not_mem_nil, or_false] at type
    rcases type with type | type <;> exact h.self.field type (by decide)
  rw [constructorBody_eq]
  exact .required body h.fieldBlock

theorem method_settles (h : r.SettlesBelow t) : r.Settles (r.method t) := by
  rw [method_eq]
  refine (Settles.fieldText _ _).bind fun _ _ => (Settles.fieldText _ _).bind fun _ _ => ?_
  exact (parameters_settles h).bind fun _ _ => (Settles.optional h.fieldBlock).bind_pure

theorem annotationMember_settles (h : r.SettlesBelow t) : r.Settles (r.annotationMember t) := by
  rw [annotationMember_eq]
  refine (Settles.fieldText _ _).bind fun _ _ => (Settles.fieldText _ _).bind fun _ _ => ?_
  exact (Settles.optional fun c hc =>
    h.expression (beneath_of_mem_children (mem_children_of_defaultValue? hc))).bind_pure

theorem member_settles (h : r.SettlesBelow t) (components : List Parameter) :
    r.Settles (r.member components t) := by
  rw [member_eq]
  split
  · exact typeDeclaration_settles h
  split
  · exact (Settles.fieldText _ _).bind fun _ _ => (declarators_settles h).bind_pure
  · exact (Settles.fieldText _ _).bind fun _ _ => (declarators_settles h).bind_pure
  · exact method_settles h
  · rename_i type
    refine (Settles.fieldText _ _).bind fun _ _ => (parameters_settles h).bind fun _ _ => ?_
    exact (constructorBody_settles h (by rw [type]; decide)).bind_pure
  · rename_i type
    refine (Settles.fieldText _ _).bind fun _ _ => ?_
    exact (constructorBody_settles h (by rw [type]; decide)).bind_pure
  · rename_i type
    refine .found (h.self.child type (by decide)) fun body hbody => ?_
    exact (h.child (mem_children_of_find?_namedChildren hbody)).block.bind_pure
  · exact h.block.bind_pure
  · exact annotationMember_settles h
  · exact .reject _ _
  · exact .reject _ _
  · exact .reject _ _

end Functions

/-! ## Trees of any size -/

theorem settlesBelow_of_complete {t : ParseTree} (complete : ∀ u ∈ t.walk, u.Complete) :
    r.SettlesBelow t := by
  induction t using ParseTree.induction with
  | step t ih =>
    have child {c : ParseTree} (hc : c ∈ t.children) : r.SettlesBelow c :=
      ih c hc fun u hu => complete u (mem_walk_of_below hc hu)
    have below {u : ParseTree} : t.Beneath u → r.SettlesBelow u := by
      rintro ⟨c, hc, hu⟩
      rw [walk_eq, List.mem_cons, List.mem_flatMap] at hu
      rcases hu with rfl | hu
      · exact child hc
      · exact (child hc).beneath hu
    exact
      { complete := complete
        expression := fun hu => expression_settles (below hu)
        statement := fun hu => statement_settles (below hu)
        member := fun hu => member_settles (below hu) }

/-! ## Units -/

theorem directive_settles (t : ParseTree) : r.Settles (r.directive t) := by
  have named (t : ParseTree) (keyword : String) : r.Settles (r.directiveNamed t keyword) := by
    unfold directiveNamed
    split
    · exact .ok _
    · exact .reject _ _
  unfold directive
  split
  · exact named _ _
  · split
    · exact named _ _
    · exact named _ _

theorem moduleDeclaration_settles (t : ParseTree) : r.Settles (r.moduleDeclaration t) :=
  (Settles.mapM fun c _ => directive_settles c).bind_pure

theorem topLevel_settles {t : ParseTree} (h : r.SettlesBelow t) : r.Settles (r.topLevel t) := by
  unfold topLevel
  split
  · exact .map _ (typeDeclaration_settles h)
  · split
    · exact .ok _
    · exact .ok _
    · exact .map _ (moduleDeclaration_settles t)
    · exact .reject _ _

theorem checkRepairs_settles (parse : Parse) : r.Settles (r.checkRepairs parse) := by
  unfold checkRepairs
  split
  · exact .ok _
  · split
    · exact .reject _ _
    · exact .refused _ _

theorem checkFeatures_settles (level : LanguageLevel) (preview : Bool) (root : ParseTree) :
    r.Settles (r.checkFeatures level preview root) := by
  intro e h
  obtain ⟨f, line, -, rfl⟩ := checkFeatures_eq_error h
  exact ⟨_, _, rfl⟩

theorem unitOf_settles {level : LanguageLevel} {preview : Bool} {parse : Parse}
    (complete : ∀ t ∈ parse.root.walk, t.Complete) :
    r.Settles (r.unitOf level preview parse) := by
  have below := settlesBelow_of_complete (r := r) complete
  refine (checkRepairs_settles parse).bind fun _ _ => ?_
  refine (checkFeatures_settles level preview parse.root).bind fun _ _ => ?_
  refine (Settles.mapM fun c hc => ?_).bind fun parts _ => ?_
  · exact topLevel_settles
      (below.child (mem_children_of_mem_namedChildren (List.mem_of_mem_filter hc)))
  · unfold assemble
    dsimp only
    split
    · exact .refused _ _
    · exact .ok _

end Reading

/-- A unit all of whose trees are complete is read, or it is refused under its name. -/
theorem readUnit_settles {name : String} {level : LanguageLevel} {preview : Bool}
    {source : SourceText} {parse : Parse} (complete : ∀ t ∈ parse.root.walk, t.Complete) :
    (∃ u, readUnit name level preview source parse = .ok u) ∨
      ∃ cause line,
        readUnit name level preview source parse = .error (.rejected name cause line) := by
  have settles : (Reading.mk name source).Settles (readUnit name level preview source parse) :=
    (Reading.unitOf_settles complete).bind_pure
  cases h : readUnit name level preview source parse with
  | ok u => exact .inl ⟨u, rfl⟩
  | error e =>
    obtain ⟨cause, line, rfl⟩ := settles e h
    exact .inr ⟨cause, line, rfl⟩

end JavaCensus
