import JavaCensus.Proofs.Views
import JavaCensus.Source.Unit

/-!
# Reading what a view shows

One lemma for each function of the reader: what it reads from a tree that a view shows clearly is
what it reads from the tree, further down by the lines of the view, and so is every error.
-/
namespace JavaCensus

/-- The error, met `k` lines further down. -/
def Error.below (k : Nat) : Error → Error
  | .rejected unit cause line => .rejected unit cause (line.map (· + k))
  | e => e

open ParseTree Reading

namespace View

variable {v : View} {t : ParseTree} {α β γ δ : Type}

/-- The second step goes as the first one does, further down: to the same error, or to the value
that `f` makes of its value. -/
def Moves (v : View) (f : α → β) (x : Read α) (y : Read β) : Prop :=
  y = (x.mapError (·.below v.lines)).map f

/-- What is read for a node is further down. -/
abbrev down (v : View) : Node → Node :=
  Node.shift v.lines

namespace Moves

theorem pure {f : α → β} {a : α} {b : β} (h : f a = b) : v.Moves f (Pure.pure a) (Pure.pure b) :=
  congrArg Except.ok h.symm

theorem error {f : α → β} {e e' : Error} (h : e.below v.lines = e') :
    v.Moves f (.error e) (.error e') :=
  congrArg Except.error h.symm

theorem bind {f : α → β} {g : γ → δ} {x : Read α} {y : Read β} {k : α → Read γ} {l : β → Read δ}
    (first : v.Moves f x y) (rest : ∀ a, v.Moves g (k a) (l (f a))) :
    v.Moves g (x >>= k) (y >>= l) := by
  rw [show y = _ from first]
  cases x with
  | error e => exact .error rfl
  | ok a => exact rest a

theorem map {f : α → β} {x : Read α} {y : Read β} (h : v.Moves f x y) {i : α → γ} {j : β → δ}
    {g : γ → δ} (same : ∀ a, g (i a) = j (f a)) : v.Moves g (i <$> x) (j <$> y) := by
  rw [show y = _ from h]
  cases x with
  | error e => exact .error rfl
  | ok a => exact congrArg Except.ok (same a).symm

theorem mapM {f : α → β} {g : ParseTree → Read α} {h : ParseTree → Read β} {ts : List ParseTree}
    (each : ∀ c ∈ ts, v.Moves f (g c) (h (v.see c))) :
    v.Moves (List.map f) (ts.mapM g) ((ts.map v.see).mapM h) := by
  induction ts with
  | nil => exact .pure rfl
  | cons c ts ih =>
    rw [List.map_cons, List.mapM_cons, List.mapM_cons]
    refine .bind (each c (List.mem_cons_self ..)) fun a => ?_
    exact .bind (ih fun d hd => each d (List.mem_cons_of_mem _ hd)) fun as => .pure rfl

theorem option {f : α → β} {g : ParseTree → Read α} {h : ParseTree → Read β}
    {o : Option ParseTree} (each : ∀ c ∈ o, v.Moves f (g c) (h (v.see c))) :
    v.Moves (Option.map f) (o.mapM g) ((o.map v.see).mapM h) := by
  cases o with
  | none => exact .pure rfl
  | some c => exact (each c rfl).map (i := some) (j := some) fun a => rfl

/-- A part that has to be there, and what is read from it. -/
theorem required {g : γ → δ} (clear : v.Clear t) {name : String} {k : ParseTree → Read γ}
    {l : ParseTree → Read δ} (rest : ∀ c ∈ t.children, v.Moves g (k c) (l (v.see c))) :
    v.Moves g (JavaCensus.required (t.field? name) >>= k)
      (JavaCensus.required ((v.see t).field? name) >>= l) := by
  rw [clear.field?]
  cases hc : t.field? name with
  | none => exact .error rfl
  | some c => exact rest c (mem_children_of_field? hc)

/-- A part that may be there, and what is read from it. -/
theorem optional {f : α → β} (clear : v.Clear t) {name : String} {g : ParseTree → Read α}
    {h : ParseTree → Read β} (each : ∀ c ∈ t.children, v.Moves f (g c) (h (v.see c))) :
    v.Moves (Option.map f) ((t.field? name).mapM g) (((v.see t).field? name).mapM h) := by
  rw [clear.field?]
  exact .option fun c hc => each c (mem_children_of_field? hc)

/-- A part that has to be found, and what is read from it. -/
theorem found {g : γ → δ} {type : String} {k : ParseTree → Read γ} {l : ParseTree → Read δ}
    (known : type ∉ ["line_comment", "block_comment", "comment"])
    (rest : ∀ c ∈ t.children, v.Moves g (k c) (l (v.see c))) :
    v.Moves g (JavaCensus.found (t.namedChildren.find? (·.type == type)) >>= k)
      (JavaCensus.found ((v.see t).namedChildren.find? (·.type == type)) >>= l) := by
  rw [v.named_see_find? t type known]
  cases hc : t.namedChildren.find? (·.type == type) with
  | none => exact .error rfl
  | some c => exact rest c (mem_children_of_find?_namedChildren hc)

/-- A part that has to have a place, and what is read from it. -/
theorem placed {g : γ → δ} {o : Option ParseTree} {k : ParseTree → Read γ} {l : ParseTree → Read δ}
    (rest : ∀ c ∈ o, v.Moves g (k c) (l (v.see c))) :
    v.Moves g (JavaCensus.placed o >>= k) (JavaCensus.placed (o.map v.see) >>= l) := by
  cases o with
  | none => exact .error rfl
  | some c => exact rest c rfl

/-- What the named children are read as, those that are read as something. -/
theorem namedChildren {f : α → β} {g : ParseTree → Read α} {h : ParseTree → Read β}
    {i : α → List γ} {j : β → List δ} {k : γ → δ}
    (each : ∀ c ∈ t.children, v.Moves f (g c) (h (v.see c)))
    (nothing : ∀ c : ParseTree, c.isComment → ∃ a, g c = .ok a ∧ i a = [])
    (same : ∀ a, (i a).map k = j (f a)) :
    v.Moves (List.map k) ((fun as => as.flatMap i) <$> t.namedChildren.mapM g)
      ((fun bs => bs.flatMap j) <$> (v.see t).namedChildren.mapM h) := by
  rw [← mapM_filter_flatMap fun c _ hc => nothing c (v.isComment_of_hidden c hc),
    v.namedChildren_see]
  refine Moves.map (.mapM fun c hc => each c ?_) fun as => ?_
  · exact mem_children_of_mem_namedChildren (List.mem_of_mem_filter hc)
  · rw [List.map_flatMap, List.flatMap_map]
    exact List.flatMap_congr fun a _ => same a

theorem reject {f : α → β} (t : ParseTree) (cause : Rejection) :
    v.Moves f (v.near.reject t cause) (v.far.reject (v.see t) cause) := by
  refine .error ?_
  rw [v.unit_eq, v.line_see]
  rfl

end Moves

/-- A node of a tree that is shown, whose parts are further down. -/
theorem node_see (v : View) (t : ParseTree) (x : Construct Node) :
    v.far.node (v.see t) (x.map v.down) = v.down (v.near.node t x) := by
  show _ = Node.shift v.lines (v.near.node t x)
  rw [Reading.node, Node.shift_eq, Reading.node, v.span_see]
  rfl

theorem Moves.node {x y : Construct Node} (h : x.map v.down = y) :
    v.Moves v.down (Pure.pure (v.near.node t x)) (Pure.pure (v.far.node (v.see t) y)) := by
  rw [← h]
  exact .pure (v.node_see t x).symm

/-! ## Names, types, parameters and modifiers -/

section Small

variable (v t)

@[simp] theorem text_see' : v.far.text (v.see t) = v.near.text t := by
  rw [Reading.text, v.text_see, Reading.text]

@[simp] theorem typeText_see : v.far.typeText (v.see t) = v.near.typeText t := by
  rw [Reading.typeText, v.text_see, Reading.typeText]

theorem qualifiedName_see : v.far.qualifiedName (v.see t) = v.near.qualifiedName t := by
  have name : (v.see t).namedChildren.find? isName = (t.namedChildren.find? isName).map v.see := by
    rw [namedChildren_see]
    refine find?_shown (fun c _ hidden => ?_) (by simp [isName])
    simp [isName, type_ne_of_hidden hidden]
  rw [qualifiedName, name, qualifiedName]
  cases t.namedChildren.find? isName <;> simp

theorem optionalIdentifier_see :
    v.far.optionalIdentifier (v.see t) = v.near.optionalIdentifier t := by
  unfold optionalIdentifier isIdentifier
  rw [v.named_see_find? t _ (by decide)]
  cases t.namedChildren.find? (·.type == "identifier") <;> simp

/-- The modifiers among the words of a group. -/
theorem keywords_see : (v.see t).children.filterMap (fun k => Modifier.ofKeyword? k.type) =
    t.children.filterMap fun k => Modifier.ofKeyword? k.type := by
  have noKeyword {c : ParseTree} (h : v.keeps c = false) : Modifier.ofKeyword? c.type = none := by
    have types := of_decide_eq_true (v.isComment_of_hidden c h)
    simp only [List.mem_cons, List.not_mem_nil, or_false] at types
    rcases types with type | type | type <;> rw [type] <;> decide
  rw [children_see, List.filterMap_map]
  induction t.children with
  | nil => rfl
  | cons c cs ih =>
    cases kept : v.keeps c with
    | false => rw [List.filter_cons_of_neg (by simp [kept]), ih, List.filterMap_cons, noKeyword kept]
    | true =>
      rw [List.filter_cons_of_pos kept, List.filterMap_cons, List.filterMap_cons, ih]
      simp

theorem modifiers_see : modifiers (v.see t) = modifiers t := by
  unfold modifiers
  dsimp only
  rw [children_see, filter_shown (fun c _ hidden => type_ne_of_hidden hidden _ (by decide))
    (by simp)]
  congr 1
  simp only [List.filterMap_flatMap, List.flatMap_map, keywords_see]

variable {v t}

theorem fieldText_moves (h : v.Clear t) (field : String) :
    v.Moves id (v.near.fieldText t field) (v.far.fieldText (v.see t) field) := by
  rw [fieldText, fieldText, h.field?, v.type_see]
  cases t.field? field with
  | none => exact .reject t _
  | some c => exact .pure (v.typeText_see c).symm

theorem optionalText_see (h : v.Clear t) (field : String) :
    (((v.see t).field? field).map v.far.text).getD "" =
      ((t.field? field).map v.near.text).getD "" := by
  rw [h.field?]
  cases t.field? field <;> simp

theorem spreadParameter_moves (h : v.ClearBelow t) :
    v.Moves id (v.near.spreadParameter t) (v.far.spreadParameter (v.see t)) := by
  have parts : ((v.see t).namedChildren.filter fun c => !c.isComment && c.type != "modifiers") =
      (t.namedChildren.filter fun c => !c.isComment && c.type != "modifiers").map v.see := by
    rw [namedChildren_see]
    exact filter_shown (fun c _ hidden => by simp [v.isComment_of_hidden c hidden]) (by simp)
  have clear : ∀ c ∈ t.namedChildren.filter fun c => !c.isComment && c.type != "modifiers",
      v.Clear c := fun c hc =>
    (h.child (mem_children_of_mem_namedChildren (List.mem_of_mem_filter hc))).self
  unfold spreadParameter
  dsimp only
  rw [parts, List.head?_map, List.getLast?_map]
  revert clear
  generalize t.namedChildren.filter (fun c => !c.isComment && c.type != "modifiers") = ts
  intro clear
  cases first : ts.head? with
  | none => exact .error rfl
  | some type =>
    cases last : ts.getLast? with
    | none => exact .error rfl
    | some declarator =>
      have name := (clear declarator (List.mem_of_getLast? last)).field? "name"
      simp only [Option.map_some, name]
      refine .pure ?_
      cases declarator.field? "name" <;> simp

theorem parameterOf_moves (h : v.ClearBelow t) :
    v.Moves (Option.map id) (v.near.parameterOf t) (v.far.parameterOf (v.see t)) := by
  have formal : v.Moves id (v.near.formalParameter t) (v.far.formalParameter (v.see t)) := by
    refine .bind (fieldText_moves h.self "type") fun type => ?_
    refine .bind (fieldText_moves h.self "name") fun name => .pure ?_
    rw [optionalText_see h.self]
    rfl
  rw [parameterOf, parameterOf, v.type_see]
  split
  · exact formal.map fun _ => rfl
  · split
    · exact (spreadParameter_moves h).map fun _ => rfl
    · exact .pure rfl

theorem parameters_moves (h : v.ClearBelow t) (field : String) :
    v.Moves id (v.near.parameters (t.field? field)) (v.far.parameters ((v.see t).field? field)) := by
  rw [h.self.field?]
  cases ht : t.field? field with
  | none => exact .pure rfl
  | some list =>
    have h := h.child (mem_children_of_field? ht)
    have flat (r : Reading) (t : ParseTree) : r.parameters (some t) =
        (fun ps => ps.flatMap Option.toList) <$> t.namedChildren.mapM r.parameterOf := by
      rw [parameters, map_eq_pure_bind]
      simp only [List.filterMap_eq_flatMap_toList, id]
    have nothing (c : ParseTree) (comment : c.isComment) :
        ∃ p, v.near.parameterOf c = .ok p ∧ p.toList = [] := by
      refine ⟨none, ?_, rfl⟩
      rw [parameterOf, type_ne_of_isComment comment _ (by decide),
        type_ne_of_isComment comment _ (by decide)]
      rfl
    have all := Moves.namedChildren (j := Option.toList) (k := id)
      (fun c hc => parameterOf_moves (h.child hc)) nothing fun p => by cases p <;> rfl
    rw [List.map_id_fun] at all
    rw [Option.map_some, flat, flat]
    exact all

end Small

/-! ## Trees and what is below them -/

/-- Whatever the tree is read as, it is read further down where it is shown. -/
structure Shows (v : View) (t : ParseTree) : Prop where
  expression : v.Moves v.down (v.near.expression t) (v.far.expression (v.see t))
  statement : v.Moves v.down (v.near.statement t) (v.far.statement (v.see t))
  member : ∀ components,
    v.Moves v.down (v.near.member components t) (v.far.member components (v.see t))

/-- The view of a tree is clear, and what is below it is read where it is shown. -/
structure ShowsBelow (v : View) (t : ParseTree) : Prop where
  clear : v.ClearBelow t
  shows : ∀ {u}, t.Beneath u → v.Shows u

namespace ShowsBelow

theorem self (h : v.ShowsBelow t) : v.Clear t :=
  h.clear.self

theorem child (h : v.ShowsBelow t) {c : ParseTree} (hc : c ∈ t.children) : v.ShowsBelow c where
  clear := h.clear.child hc
  shows hu := h.shows ⟨c, hc, hu.mem_walk⟩

theorem expression (h : v.ShowsBelow t) {c : ParseTree} (hc : c ∈ t.children) :
    v.Moves v.down (v.near.expression c) (v.far.expression (v.see c)) :=
  (h.shows (beneath_of_mem_children hc)).expression

theorem statement (h : v.ShowsBelow t) {c : ParseTree} (hc : c ∈ t.children) :
    v.Moves v.down (v.near.statement c) (v.far.statement (v.see c)) :=
  (h.shows (beneath_of_mem_children hc)).statement

theorem expressions (h : v.ShowsBelow t) {ts : List ParseTree} (below : ∀ u ∈ ts, t.Beneath u) :
    v.Moves (List.map v.down) (ts.mapM v.near.expression)
      ((ts.map v.see).mapM v.far.expression) :=
  .mapM fun u hu => (h.shows (below u hu)).expression

theorem statements (h : v.ShowsBelow t) (skip : List String) :
    v.Moves (List.map v.down) ((t.statementTrees skip).mapM v.near.statement)
      (((v.see t).statementTrees skip).mapM v.far.statement) := by
  rw [v.statementTrees_see]
  exact .mapM fun u hu => h.statement (mem_children_of_mem_statementTrees hu)

end ShowsBelow

/-! ## Parts -/

theorem plainExpression_moves (h : v.ShowsBelow t) :
    v.Moves v.down (v.near.plainExpression t) (v.far.plainExpression (v.see t)) := by
  rw [plainExpression_eq, plainExpression_eq, h.clear.nestedCode]
  refine .bind (h.expressions fun _ hu => beneath_of_mem_nestedCode hu) fun nested => .node ?_
  simp [Construct.map, Construct.traverse]

theorem arguments_moves (h : v.ShowsBelow t) :
    v.Moves (List.map v.down) (v.near.arguments t) (v.far.arguments (v.see t)) := by
  rw [arguments_eq, arguments_eq, h.clear.argumentTrees]
  exact h.expressions fun _ hu => beneath_of_mem_argumentTrees hu

theorem block_moves (h : v.ShowsBelow t) :
    v.Moves v.down (v.near.block t) (v.far.block (v.see t)) := by
  rw [block_eq, block_eq]
  refine .bind (h.statements _) fun statements => .node ?_
  simp [Construct.map, Construct.traverse]

theorem members_moves (h : v.ShowsBelow t) (components : List Parameter) :
    v.Moves (List.map v.down) (v.near.members components t)
      (v.far.members components (v.see t)) := by
  rw [members_eq, members_eq, v.parts_see]
  exact .mapM fun u hu => (h.shows (beneath_of_mem_parts hu)).member components

theorem declarators_moves (h : v.ShowsBelow t) :
    v.Moves (List.map v.down) (v.near.declarators t) (v.far.declarators (v.see t)) := by
  rw [declarators_eq, declarators_eq, h.self.fields]
  refine .mapM fun c hc => ?_
  have h := h.child (mem_children_of_mem_fieldsBelow hc)
  refine .bind (fieldText_moves h.self "name") fun name => ?_
  refine .bind (.optional h.self fun d hd => h.expression hd) fun value => .node ?_
  simp [Construct.map, Construct.traverse]

/-! ## Switches -/

theorem switchEntry_moves {label : ParseTree} (h : v.ShowsBelow label) (span : Span)
    (statements : List Node) :
    v.Moves v.down (v.near.switchEntry label span statements)
      (v.far.switchEntry (v.see label) (span.shift v.lines) (statements.map v.down)) := by
  rw [switchEntry_eq, switchEntry_eq, v.parts_see, v.any_children_see label "default" (by decide)]
  refine .bind (h.expressions fun _ => beneath_of_mem_parts) fun labels => .pure ?_
  show Node.shift v.lines _ = _
  rw [Node.bare, Node.shift_eq]
  simp [Construct.map, Construct.traverse, Node.bare, Slots.shift, Slots.empty]

theorem groupOf_moves (statements : List Node) (labels : List ParseTree)
    (h : ∀ label ∈ labels, v.ShowsBelow label) :
    v.Moves (List.map v.down) (v.near.groupOf t statements labels)
      (v.far.groupOf (v.see t) (statements.map v.down) (labels.map v.see)) := by
  induction labels with
  | nil => exact .pure rfl
  | cons label rest ih =>
    have ih := ih fun l hl => h l (List.mem_cons_of_mem _ hl)
    have first := switchEntry_moves (h label (List.mem_cons_self ..))
    cases rest with
    | nil =>
      have reaches : (⟨(v.far.source.span (v.see label)).start, (v.far.source.span (v.see t)).stop⟩ :
          Span) = Span.shift v.lines
            ⟨(v.near.source.span label).start, (v.near.source.span t).stop⟩ := by
        rw [v.span_see, v.span_see]
        rfl
      simp only [List.map_cons, List.map_nil, groupOf, reaches]
      exact .bind (first _ statements) fun entry => .pure rfl
    | cons other rest =>
      simp only [List.map_cons] at ih ⊢
      simp only [groupOf, v.span_see]
      exact .bind (first _ []) fun entry => .bind ih fun entries => .pure rfl

theorem entriesOf_moves (h : v.ShowsBelow t) :
    v.Moves (List.map v.down) (v.near.entriesOf t) (v.far.entriesOf (v.see t)) := by
  unfold entriesOf
  rw [v.type_see]
  split
  · refine .bind (h.statements _) fun statements => ?_
    rw [v.named_see_filter t _ (by decide)]
    exact groupOf_moves statements _ fun label hl =>
      h.child (mem_children_of_mem_namedChildren (List.mem_of_mem_filter hl))
  · refine .found (by decide) fun label hl => .bind (h.statements _) fun statements => ?_
    rw [v.span_see]
    exact .bind (switchEntry_moves (h.child hl) _ statements) fun entry => .pure rfl
  · exact .pure rfl

theorem entriesOf_of_isComment {r : Reading} (h : t.isComment) : r.entriesOf t = .ok [] := by
  have types := of_decide_eq_true h
  simp only [List.mem_cons, List.not_mem_nil, or_false] at types
  rcases types with type | type | type <;> rw [entriesOf, type] <;> rfl

theorem switchEntries_moves (h : v.ShowsBelow t) :
    v.Moves (List.map v.down) (v.near.switchEntries t) (v.far.switchEntries (v.see t)) := by
  rw [switchEntries_eq, switchEntries_eq]
  exact .namedChildren (fun c hc => entriesOf_moves (h.child hc))
    (fun c comment => ⟨[], entriesOf_of_isComment comment, rfl⟩) fun entries => rfl

/-! ## Expressions -/

theorem lambdaOf_moves (h : v.ShowsBelow t) :
    v.Moves v.down (v.near.lambdaOf t) (v.far.lambdaOf (v.see t)) := by
  refine .required h.self fun body hb => ?_
  rw [v.type_see]
  split
  · exact .bind (block_moves (h.child hb)) fun body => .node rfl
  · exact .bind (h.expression hb) fun body => .node rfl

theorem creationOf_moves (h : v.ShowsBelow t) :
    v.Moves v.down (v.near.creationOf t) (v.far.creationOf (v.see t)) := by
  rw [creationOf, creationOf, v.named_see_find? t _ (by decide)]
  cases hb : t.namedChildren.find? (·.type == "class_body") with
  | none => exact plainExpression_moves h
  | some body =>
    have hb := h.child (mem_children_of_find?_namedChildren hb)
    refine .bind (fieldText_moves h.self "type") fun type => ?_
    refine .bind (arguments_moves h) fun arguments => ?_
    refine .bind (members_moves hb []) fun members => .node ?_
    simp [Construct.map, Construct.traverse]

theorem expression_moves (h : v.ShowsBelow t) :
    v.Moves v.down (v.near.expression t) (v.far.expression (v.see t)) := by
  rw [expression_eq, expression_eq, v.type_see]
  split
  · exact lambdaOf_moves h
  · refine .required h.self fun condition hc => .bind (h.expression hc) fun selector => ?_
    refine .required h.self fun body hb => ?_
    refine .bind (switchEntries_moves (h.child hb)) fun entries => .node ?_
    simp [Construct.map, Construct.traverse]
  · exact creationOf_moves h
  · exact plainExpression_moves h

/-! ## Statements -/

theorem resourceOf_moves (h : v.ShowsBelow t) :
    v.Moves v.down (v.near.resourceOf t) (v.far.resourceOf (v.see t)) := by
  have name : v.far.text (((v.see t).field? "name").getD (v.see t)) =
      v.near.text ((t.field? "name").getD t) := by
    rw [h.self.field?]
    cases t.field? "name" <;> simp
  rw [resourceOf, resourceOf, name]
  refine .bind (.optional h.self fun c hc => h.expression hc) fun value => .node ?_
  simp [Construct.map, Construct.traverse]

theorem resources_moves (h : v.ShowsBelow t) :
    v.Moves (List.map v.down) (t.resourceTrees.mapM v.near.resourceOf)
      ((v.see t).resourceTrees.mapM v.far.resourceOf) := by
  rw [h.clear.resourceTrees]
  refine .mapM fun c hc => resourceOf_moves ?_
  obtain ⟨specification, hs, hc⟩ := beneath_of_mem_resourceTrees hc
  exact ⟨(h.clear.child hs).of_mem_walk hc, fun hu => h.shows
    ⟨specification, hs, ParseTree.mem_walk_trans hc hu.mem_walk⟩⟩

def downPart (v : View) : TryPart → TryPart
  | .catch n => .catch (v.down n)
  | .last n => .last (v.down n)

theorem tryPartOf_moves (h : v.ShowsBelow t) :
    v.Moves (Option.map v.downPart) (v.near.tryPartOf t) (v.far.tryPartOf (v.see t)) := by
  rw [tryPartOf, tryPartOf, v.type_see]
  split
  · refine .found (by decide) fun parameter hp => ?_
    refine .found (by decide) fun type ht => ?_
    refine .bind (fieldText_moves (h.child hp).self "name") fun name => ?_
    refine .required h.self fun body hb => .bind (block_moves (h.child hb)) fun body => ?_
    rw [v.typeText_see]
    exact (Moves.node rfl).map (i := fun n => some (TryPart.catch n))
      (j := fun n => some (TryPart.catch n)) fun n => rfl
  · exact .found (by decide) fun body hb => .bind (block_moves (h.child hb)) fun body => .pure rfl
  · exact .pure rfl

theorem tryPartOf_of_isComment {r : Reading} (h : t.isComment) : r.tryPartOf t = .ok none := by
  have types := of_decide_eq_true h
  simp only [List.mem_cons, List.not_mem_nil, or_false] at types
  rcases types with type | type | type <;> rw [tryPartOf, type] <;> rfl

theorem filterMap_downPart {f : TryPart → Option Node}
    (same : ∀ p, f (v.downPart p) = (f p).map v.down) (parts : List TryPart) :
    (parts.map v.downPart).filterMap f = (parts.filterMap f).map v.down := by
  rw [List.filterMap_map, List.map_filterMap]
  exact List.filterMap_congr fun p _ => same p

theorem tryStatement_moves (h : v.ShowsBelow t) :
    v.Moves v.down (v.near.tryStatement t) (v.far.tryStatement (v.see t)) := by
  rw [tryStatement_eq, tryStatement_eq]
  refine .bind (resources_moves h) fun resources => ?_
  refine .bind (.namedChildren (k := v.downPart) (fun c hc => tryPartOf_moves (h.child hc))
    (fun c comment => ⟨none, tryPartOf_of_isComment comment, rfl⟩)
    fun p => by cases p <;> rfl) fun parts => ?_
  refine .required h.self fun body hb => .bind (block_moves (h.child hb)) fun body => .node ?_
  rw [filterMap_downPart (fun p => by cases p <;> rfl),
    filterMap_downPart (fun p => by cases p <;> rfl), List.getLast?_map]
  simp [Construct.map, Construct.traverse]

theorem forStatement_moves (h : v.ShowsBelow t) :
    v.Moves v.down (v.near.forStatement t) (v.far.forStatement (v.see t)) := by
  rw [forStatement_eq, forStatement_eq, h.self.fields, h.self.fields]
  refine .bind (f := List.map v.down) (.mapM fun c hc => ?_) fun init => ?_
  · rw [v.type_see]
    split
    · exact h.statement (mem_children_of_mem_fieldsBelow hc)
    · exact h.expression (mem_children_of_mem_fieldsBelow hc)
  refine .required h.self fun body hb => .bind (h.statement hb) fun body => ?_
  refine .bind (.optional h.self fun c hc => h.expression hc) fun condition => ?_
  refine .bind (.mapM fun c hc => h.expression (mem_children_of_mem_fieldsBelow hc))
    fun update => .node ?_
  simp [Construct.map, Construct.traverse]

theorem ifStatement_moves (h : v.ShowsBelow t) :
    v.Moves v.down (v.near.ifStatement t) (v.far.ifStatement (v.see t)) := by
  rw [ifStatement_eq, ifStatement_eq]
  refine .required h.self fun c hc => .bind (h.expression hc) fun condition => ?_
  refine .required h.self fun c hc => .bind (h.statement hc) fun consequence => ?_
  refine .bind (.optional h.self fun c hc => h.statement hc) fun alternative => .node ?_
  simp [Construct.map, Construct.traverse]

theorem part_moves (h : v.ShowsBelow t) {c : ParseTree} (hc : c ∈ t.parts.map (·.tree)) :
    v.Moves v.down (v.near.expression c) (v.far.expression (v.see c)) :=
  (h.shows (beneath_of_mem_parts hc)).expression

theorem soleExpression_moves (h : v.ShowsBelow t) :
    v.Moves v.down (v.near.soleExpression t) (v.far.soleExpression (v.see t)) := by
  have part {c : ParseTree} := part_moves h (c := c)
  rw [soleExpression_eq, soleExpression_eq, v.parts_see, v.type_see]
  revert part
  cases t.parts.map (·.tree) with
  | nil => exact fun _ => .reject t _
  | cons c rest => exact fun part => part (List.mem_cons_self ..)

theorem returnOf_moves (h : v.ShowsBelow t) :
    v.Moves v.down (v.near.returnOf t) (v.far.returnOf (v.see t)) := by
  have part {c : ParseTree} := part_moves h (c := c)
  rw [returnOf, returnOf, v.parts_see]
  revert part
  cases t.parts.map (·.tree) with
  | nil => exact fun _ => .node rfl
  | cons c rest => exact fun part => .bind (part (List.mem_cons_self ..)) fun value => .node rfl

theorem assertionOf_moves (h : v.ShowsBelow t) :
    v.Moves v.down (v.near.assertionOf t) (v.far.assertionOf (v.see t)) := by
  have part {c : ParseTree} := part_moves h (c := c)
  rw [assertionOf, assertionOf, v.parts_see]
  revert part
  cases t.parts.map (·.tree) with
  | nil => exact fun _ => .error rfl
  | cons c rest =>
    intro part
    have first := part (List.mem_cons_self ..)
    cases rest with
    | nil => exact .bind first fun check => .node rfl
    | cons d rest =>
      have second := part (List.mem_cons_of_mem _ (List.mem_cons_self ..))
      exact .bind first fun check => .bind second fun message => .node rfl

theorem simpleStatement_moves (h : v.ShowsBelow t) :
    v.Moves v.down (v.near.simpleStatement t) (v.far.simpleStatement (v.see t)) := by
  have isThis : ((v.see t).field? "constructor").any (·.type == "this") =
      (t.field? "constructor").any (·.type == "this") := by
    rw [h.self.field?]
    cases t.field? "constructor" <;> simp
  have sole {x : Node → Construct Node} (same : ∀ n, (x n).map v.down = x (v.down n)) :
      v.Moves v.down (do return v.near.node t (x (← v.near.soleExpression t)))
        (do return v.far.node (v.see t) (x (← v.far.soleExpression (v.see t)))) :=
    .bind (soleExpression_moves h) fun expression => .node (same expression)
  rw [simpleStatement_eq, simpleStatement_eq, v.type_see, v.optionalIdentifier_see, isThis]
  split
  · exact sole (x := .expressionStatement) fun _ => rfl
  · exact sole (x := .yieldStatement) fun _ => rfl
  · exact sole (x := .throwStatement) fun _ => rfl
  · exact .node rfl
  · exact .node rfl
  · exact returnOf_moves h
  · exact assertionOf_moves h
  · refine .bind (arguments_moves h) fun arguments => .node ?_
    simp [Construct.map, Construct.traverse]
  · exact .reject t _

/-! ## Types and members -/

theorem enumConstant_moves (h : v.ShowsBelow t) :
    v.Moves v.down (v.near.enumConstant t) (v.far.enumConstant (v.see t)) := by
  rw [enumConstant_eq, enumConstant_eq]
  refine .bind (fieldText_moves h.self "name") fun name => ?_
  refine .bind (arguments_moves h) fun arguments => ?_
  refine .bind (.optional h.self fun c hc => members_moves (h.child hc) []) fun body => .node ?_
  simp [Construct.map, Construct.traverse]

def downEnumPart (v : View) : EnumPart → EnumPart
  | .constant n => .constant (v.down n)
  | .members ns => .members (ns.map v.down)

theorem enumPartOf_moves (h : v.ShowsBelow t) :
    v.Moves (Option.map v.downEnumPart) (v.near.enumPartOf t) (v.far.enumPartOf (v.see t)) := by
  rw [enumPartOf, enumPartOf, v.type_see]
  split
  · exact .bind (enumConstant_moves h) fun constant => .pure rfl
  · exact .bind (members_moves h []) fun members => .pure rfl
  · exact .pure rfl

theorem enumPartOf_of_isComment {r : Reading} (h : t.isComment) : r.enumPartOf t = .ok none := by
  have types := of_decide_eq_true h
  simp only [List.mem_cons, List.not_mem_nil, or_false] at types
  rcases types with type | type | type <;> rw [enumPartOf, type] <;> rfl

theorem enumParts_moves (h : v.ShowsBelow t) :
    v.Moves (List.map v.downEnumPart) (v.near.enumParts t) (v.far.enumParts (v.see t)) := by
  rw [enumParts_eq, enumParts_eq, h.self.field?]
  cases hb : t.field? "body" with
  | none => exact .pure rfl
  | some body =>
    have h := h.child (mem_children_of_field? hb)
    exact .namedChildren (fun c hc => enumPartOf_moves (h.child hc))
      (fun c comment => ⟨none, enumPartOf_of_isComment comment, rfl⟩) fun p => by cases p <;> rfl

theorem bodyMembers_moves (h : v.ShowsBelow t) (components : List Parameter) :
    v.Moves (List.map v.down) (v.near.bodyMembers components t)
      (v.far.bodyMembers components (v.see t)) := by
  rw [bodyMembers_eq, bodyMembers_eq, h.clear.memberTrees]
  exact .mapM fun u hu => (h.shows (beneath_of_mem_memberTrees hu)).member components

theorem typeDeclaration_moves (h : v.ShowsBelow t) :
    v.Moves v.down (v.near.typeDeclaration t) (v.far.typeDeclaration (v.see t)) := by
  have declared (sort : TypeSort) (name : String) (components : List Parameter) :
      v.Moves v.down
        (do return v.near.node t (.typeDeclaration sort name (modifiers t)
          (← v.near.bodyMembers components t)))
        (do return v.far.node (v.see t) (.typeDeclaration sort name (modifiers t)
          (← v.far.bodyMembers components (v.see t)))) := by
    refine .bind (bodyMembers_moves h components) fun members => .node ?_
    simp [Construct.map, Construct.traverse]
  rw [Reading.typeDeclaration, Reading.typeDeclaration, v.type_see, v.modifiers_see]
  refine .bind (fieldText_moves h.self "name") fun name => ?_
  split
  · exact declared .class name []
  · exact declared .interface name []
  · exact declared .annotationType name []
  · refine .bind (enumParts_moves h) fun parts => .node ?_
    have constants : (parts.map v.downEnumPart).filterMap EnumPart.constant? =
        (parts.filterMap EnumPart.constant?).map v.down := by
      rw [List.filterMap_map, List.map_filterMap]
      exact List.filterMap_congr fun p _ => by cases p <;> rfl
    have members : (parts.map v.downEnumPart).flatMap EnumPart.memberList =
        (parts.flatMap EnumPart.memberList).map v.down := by
      rw [List.flatMap_map, List.map_flatMap]
      exact List.flatMap_congr fun p _ => by cases p <;> rfl
    simp [Construct.map, Construct.traverse, constants, members]
  · exact .bind (parameters_moves h.clear "parameters") fun components =>
      declared (.record components) name components
  · exact .reject t _

theorem labeledStatement_moves (h : v.ShowsBelow t) (labeled : t.type = "labeled_statement") :
    v.Moves v.down
      (do
        let label ← JavaCensus.found (t.namedChildren.find? (·.type == "identifier"))
        let last ← JavaCensus.placed t.children.getLast?
        return v.near.node t (.labeledStatement (v.near.text label) (← v.near.statement last)))
      (do
        let label ← JavaCensus.found ((v.see t).namedChildren.find? (·.type == "identifier"))
        let last ← JavaCensus.placed (v.see t).children.getLast?
        return v.far.node (v.see t)
          (.labeledStatement (v.far.text label) (← v.far.statement last))) := by
  rw [getLast?_children_see (h.self.label labeled)]
  refine .found (by decide) fun label hl => .placed fun last hlast => ?_
  rw [v.text_see']
  exact .bind (h.statement (List.mem_of_getLast? hlast)) fun statement => .node rfl

theorem statement_moves (h : v.ShowsBelow t) :
    v.Moves v.down (v.near.statement t) (v.far.statement (v.see t)) := by
  rw [statement_eq, statement_eq, v.isTypeDeclaration_see, v.type_see]
  split
  · exact typeDeclaration_moves h
  split
  · exact block_moves h
  · exact .node rfl
  · refine .bind (fieldText_moves h.self "type") fun type => ?_
    refine .bind (declarators_moves h) fun declarators => .node ?_
    simp [Construct.map, Construct.traverse]
  case h_4 labeled => exact labeledStatement_moves h labeled
  · exact ifStatement_moves h
  · refine .required h.self fun c hc => .bind (h.expression hc) fun condition => ?_
    refine .required h.self fun b hb => .bind (h.statement hb) fun body => .node rfl
  · refine .required h.self fun b hb => .bind (h.statement hb) fun body => ?_
    refine .required h.self fun c hc => .bind (h.expression hc) fun condition => .node rfl
  · exact forStatement_moves h
  · refine .bind (fieldText_moves h.self "type") fun type => ?_
    refine .bind (fieldText_moves h.self "name") fun name => ?_
    refine .required h.self fun c hc => .bind (h.expression hc) fun value => ?_
    refine .required h.self fun b hb => .bind (h.statement hb) fun body => .node rfl
  · have first : ((v.see t).parts.map (·.tree)).head? =
        (t.parts.map (·.tree)).head?.map v.see := by
      rw [v.parts_see, List.head?_map]
    rw [first]
    refine .placed fun c hc => .bind (part_moves h (List.mem_of_mem_head? hc)) fun lock => ?_
    refine .required h.self fun b hb => .bind (block_moves (h.child hb)) fun body => .node rfl
  · exact tryStatement_moves h
  · exact tryStatement_moves h
  · refine .required h.self fun c hc => .bind (h.expression hc) fun selector => ?_
    refine .required h.self fun b hb => ?_
    refine .bind (switchEntries_moves (h.child hb)) fun entries => .node ?_
    simp [Construct.map, Construct.traverse]
  · exact simpleStatement_moves h

theorem constructorBody_moves (h : v.ShowsBelow t) :
    v.Moves v.down (v.near.constructorBody t) (v.far.constructorBody (v.see t)) := by
  rw [constructorBody_eq, constructorBody_eq]
  exact .required h.self fun body hb => block_moves (h.child hb)

theorem method_moves (h : v.ShowsBelow t) :
    v.Moves v.down (v.near.method t) (v.far.method (v.see t)) := by
  rw [method_eq, method_eq, v.modifiers_see]
  refine .bind (fieldText_moves h.self "type") fun type => ?_
  refine .bind (fieldText_moves h.self "name") fun name => ?_
  refine .bind (parameters_moves h.clear "parameters") fun parameters => ?_
  refine .bind (.optional h.self fun b hb => block_moves (h.child hb)) fun body => .node ?_
  rw [optionalText_see h.self]
  simp [Construct.map, Construct.traverse]

theorem annotationMember_moves (h : v.ShowsBelow t) :
    v.Moves v.down (v.near.annotationMember t) (v.far.annotationMember (v.see t)) := by
  rw [annotationMember_eq, annotationMember_eq, v.modifiers_see, h.self.defaultValue?]
  refine .bind (fieldText_moves h.self "name") fun name => ?_
  refine .bind (fieldText_moves h.self "type") fun type => ?_
  refine .bind (.option fun c hc => h.expression (mem_children_of_defaultValue? hc))
    fun value => .node ?_
  simp [Construct.map, Construct.traverse]

theorem member_moves (h : v.ShowsBelow t) (components : List Parameter) :
    v.Moves v.down (v.near.member components t) (v.far.member components (v.see t)) := by
  have field : v.Moves v.down
      (do
        let type ← v.near.fieldText t "type"
        return v.near.node t (.fieldDeclaration type (← v.near.declarators t) (modifiers t)))
      (do
        let type ← v.far.fieldText (v.see t) "type"
        return v.far.node (v.see t)
          (.fieldDeclaration type (← v.far.declarators (v.see t)) (modifiers t))) := by
    refine .bind (fieldText_moves h.self "type") fun type => ?_
    refine .bind (declarators_moves h) fun declarators => .node ?_
    simp [Construct.map, Construct.traverse]
  rw [member_eq, member_eq, v.isTypeDeclaration_see, v.type_see, v.modifiers_see]
  split
  · exact typeDeclaration_moves h
  split
  · exact field
  · exact field
  · exact method_moves h
  · refine .bind (fieldText_moves h.self "name") fun name => ?_
    refine .bind (parameters_moves h.clear "parameters") fun parameters => ?_
    exact .bind (constructorBody_moves h) fun body => .node rfl
  · refine .bind (fieldText_moves h.self "name") fun name => ?_
    exact .bind (constructorBody_moves h) fun body => .node rfl
  · exact .found (by decide) fun b hb => .bind (block_moves (h.child hb)) fun body => .node rfl
  · exact .bind (block_moves h) fun body => .node rfl
  · exact annotationMember_moves h
  · exact .reject t _
  · exact .reject t _
  · exact .reject t _

/-- What is shown clearly is read as it is, wherever the reader meets it. -/
theorem shows (v : View) (t : ParseTree) (clear : v.ClearBelow t) : ∀ u ∈ t.walk, v.Shows u := by
  induction t using ParseTree.induction with
  | step t ih =>
    have below : v.ShowsBelow t := ⟨clear, fun ⟨c, hc, hu⟩ => ih c hc (clear.child hc) _ hu⟩
    intro u hu
    rw [ParseTree.walk_eq, List.mem_cons, List.mem_flatMap] at hu
    rcases hu with rfl | hu
    · exact ⟨expression_moves below, statement_moves below, member_moves below⟩
    · exact below.shows hu

theorem ClearBelow.showsBelow (clear : v.ClearBelow t) : v.ShowsBelow t :=
  ⟨clear, fun hu => v.shows t clear _ hu.mem_walk⟩

/-! ## Imports and modules -/

theorem importDeclaration_see (v : View) (t : ParseTree) :
    v.far.importDeclaration (v.see t) = v.down (v.near.importDeclaration t) := by
  have word (type : String) (known : type ∉ ["line_comment", "block_comment", "comment"]) :
      type ∈ (v.see t).children.map (·.type) ↔ type ∈ t.children.map (·.type) := by
    have same := Bool.eq_iff_iff.1 (v.any_children_see t type known)
    simpa only [List.any_eq_true, beq_iff_eq, ← List.mem_map] using same
  unfold importDeclaration
  simp only [word "static" (by decide), word "asterisk" (by decide), v.qualifiedName_see]
  rw [← v.node_see]
  rfl

theorem directiveNamed_moves (t : ParseTree) (keyword : String) :
    v.Moves v.down (v.near.directiveNamed t keyword) (v.far.directiveNamed (v.see t) keyword) := by
  rw [directiveNamed, directiveNamed, v.qualifiedName_see]
  split
  · exact .node rfl
  · exact .reject t _

theorem directiveKeyword?_of_isComment (h : t.isComment) : directiveKeyword? t = none := by
  have types := of_decide_eq_true h
  simp only [List.mem_cons, List.not_mem_nil, or_false] at types
  rcases types with type | type | type <;> rw [directiveKeyword?, type] <;> rfl

theorem directive_moves (h : ∀ c ∈ t.children.head?, v.keeps c = true) :
    v.Moves v.down (v.near.directive t) (v.far.directive (v.see t)) := by
  have keyword (c : ParseTree) : directiveKeyword? (v.see c) = directiveKeyword? c := by
    rw [directiveKeyword?, type_see, directiveKeyword?]
  have inner : ((v.see t).namedChildren.find? fun c => (directiveKeyword? c).isSome) =
      (t.namedChildren.find? fun c => (directiveKeyword? c).isSome).map v.see := by
    rw [namedChildren_see]
    refine find?_shown (fun c _ hidden => ?_) fun c => by rw [keyword]
    rw [directiveKeyword?_of_isComment (v.isComment_of_hidden c hidden)]
    rfl
  have first : ((v.see t).children.head?.map (·.type)) = t.children.head?.map (·.type) := by
    rw [head?_children_see h]
    cases t.children.head? <;> simp
  rw [directive, directive, keyword, inner, first]
  cases directiveKeyword? t with
  | some word => exact directiveNamed_moves t word
  | none =>
    cases t.namedChildren.find? fun c => (directiveKeyword? c).isSome with
    | none => exact directiveNamed_moves t _
    | some c =>
      simp only [Option.map_some, keyword]
      exact directiveNamed_moves c _

theorem moduleDeclaration_moves (h : v.Clear t) (module : t.type = "module_declaration") :
    v.Moves v.down (v.near.moduleDeclaration t) (v.far.moduleDeclaration (v.see t)) := by
  have directives : v.Moves (List.map v.down) (t.directiveTrees.mapM v.near.directive)
      ((v.see t).directiveTrees.mapM v.far.directive) := by
    rw [h.directiveTrees]
    exact .mapM fun d hd => directive_moves (h.directive module d hd)
  unfold moduleDeclaration
  dsimp only
  rw [h.field? "name", v.qualifiedName_see, v.any_children_see t "open" (by decide)]
  refine .bind directives fun directives => .node ?_
  cases t.field? "name" <;> simp [Construct.map, Construct.traverse]

/-! ## Units -/

def downTopLevel (v : View) : TopLevel → TopLevel
  | .package n => .package (v.down n)
  | .import n => .import (v.down n)
  | .module n => .module (v.down n)
  | .type n => .type (v.down n)

theorem topLevel_moves (h : v.ClearBelow t) :
    v.Moves v.downTopLevel (v.near.topLevel t) (v.far.topLevel (v.see t)) := by
  rw [topLevel, topLevel, v.isTypeDeclaration_see, v.type_see]
  split
  · exact (typeDeclaration_moves h.showsBelow).map fun n => rfl
  split
  · rw [v.qualifiedName_see]
    exact (Moves.node rfl).map (i := TopLevel.package) (j := TopLevel.package) fun n => rfl
  · exact .pure (congrArg TopLevel.import (v.importDeclaration_see t).symm)
  case h_3 module => exact (moduleDeclaration_moves h.self module).map fun n => rfl
  · exact .reject t _

theorem feature?_see {m : Met} (h : v.Clear m.tree) :
    v.far.feature? (v.seeMet m) = v.near.feature? m := by
  have pattern : ((v.see m.tree).namedChildren.any fun c =>
        c.type == "type_pattern" || c.type == "record_pattern") =
      m.tree.namedChildren.any fun c => c.type == "type_pattern" || c.type == "record_pattern" := by
    rw [namedChildren_see]
    exact any_shown (fun c _ hidden => by simp [type_ne_of_hidden hidden]) (by simp)
  simp only [feature?, seeMet, type_see, v.text_see, h.field?, Option.isSome_map, pattern,
    v.modifiers_see]
  rfl

theorem checkFeatures_moves (level : LanguageLevel) (preview : Bool) (h : v.ClearBelow t) :
    v.Moves id (v.near.checkFeatures level preview t)
      (v.far.checkFeatures level preview (v.see t)) := by
  have visible (ms : List Met) :
      (((ms.filter fun m => v.keeps m.tree).map v.seeMet).filter fun m => !m.tree.isComment) =
        (ms.filter fun m => !m.tree.isComment).map v.seeMet := by
    rw [List.filter_map, List.filter_filter]
    congr 1
    refine List.filter_congr fun m _ => ?_
    cases kept : v.keeps m.tree with
    | true => simp [seeMet]
    | false => simp [v.isComment_of_hidden _ kept]
  have met : ((v.see t).descendants.filter fun m => !m.tree.isComment) =
      (t.descendants.filter fun m => !m.tree.isComment).map v.seeMet := by
    rw [h.descendants, ParseTree.descendants, walkStack, List.append_nil, List.filter_cons,
      List.filter_cons, visible, v.isComment_see]
    split <;> rfl
  have checks (ms : List Met) (clear : ∀ m ∈ ms, v.Clear m.tree) :
      v.Moves id (ms.forM (v.near.checkFeature level preview))
        ((ms.map v.seeMet).forM (v.far.checkFeature level preview)) := by
    induction ms with
    | nil => exact .pure rfl
    | cons m ms ih =>
      simp only [List.map_cons, List.forM_eq_forM, List.forM_cons] at ih ⊢
      refine .bind (f := id) ?_ fun _ => ih fun k hk => clear k (List.mem_cons_of_mem _ hk)
      rw [checkFeature, checkFeature, feature?_see (clear m (List.mem_cons_self ..))]
      split
      · exact .pure rfl
      · split
        · exact .pure rfl
        · exact .reject m.tree _
  rw [checkFeatures, checkFeatures, met]
  refine checks _ fun m hm => h m.tree ?_
  rw [← trees_descendants]
  exact List.mem_map_of_mem (List.mem_of_mem_filter hm)

end View

/-- The unit with all that is in it `k` lines further down. It starts where it did. -/
def Node.lowered (k : Nat) (n : Node) : Node :=
  { n.shift k with span := ⟨n.span.start, n.span.stop.shift k⟩ }

namespace View

variable {v : View} {t : ParseTree}

theorem assemble_moves (parts : List TopLevel) :
    v.Moves (Node.lowered v.lines) (v.near.assemble t parts)
      (v.far.assemble (v.see t) (parts.map v.downTopLevel)) := by
  have select {f : TopLevel → Option Node}
      (same : ∀ p, f (v.downTopLevel p) = (f p).map v.down) :
      (parts.map v.downTopLevel).filterMap f = (parts.filterMap f).map v.down := by
    rw [List.filterMap_map, List.map_filterMap]
    exact List.filterMap_congr fun p _ => same p
  have packages := select (f := TopLevel.package?) fun p => by cases p <;> rfl
  have imports := select (f := TopLevel.import?) fun p => by cases p <;> rfl
  have modules := select (f := TopLevel.module?) fun p => by cases p <;> rfl
  have types := select (f := TopLevel.type?) fun p => by cases p <;> rfl
  simp only [assemble, packages, imports, modules, types, List.getLast?_map, Option.isSome_map,
    List.isEmpty_map, v.unit_eq]
  split
  · exact .error rfl
  · refine .pure ?_
    rw [unitSpan, unitSpan, v.span_see, Node.lowered, Node.shift_eq]
    simp [Construct.map, Construct.traverse, Node.bare, Slots.shift, Slots.empty, Span.shift]

/-- A unit is read from what is shown as it is read from the tree, or refused for the same reason,
as long as it is for what the grammar had to repair. -/
theorem unitOf_moves (level : LanguageLevel) (preview hasError : Bool) (h : v.ClearBelow t)
    (repairs : v.Moves id (v.near.checkRepairs ⟨t, hasError⟩)
      (v.far.checkRepairs ⟨v.see t, hasError⟩)) :
    v.Moves (Node.lowered v.lines) (v.near.unitOf level preview ⟨t, hasError⟩)
      (v.far.unitOf level preview ⟨v.see t, hasError⟩) := by
  refine .bind repairs fun _ => .bind (checkFeatures_moves level preview h) fun _ => ?_
  rw [v.codeChildren_see]
  refine .bind (.mapM fun c hc => topLevel_moves (h.child ?_)) fun parts => assemble_moves parts
  exact mem_children_of_mem_namedChildren (List.mem_of_mem_filter hc)

end View

end JavaCensus
