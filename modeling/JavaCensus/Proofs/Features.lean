import JavaCensus.Proofs.Calls
import JavaCensus.Proofs.Capacities
import JavaCensus.Proofs.Equations
import JavaCensus.Proofs.Origins

/-!
# Features of admitted units

The check of the features goes by the types of trees and of their parents, and what a tree becomes
is decided later, by the place it is read from. What is admitted still holds no construct whose
feature is missing, with one exception: a switch in the head of a loop stands below a statement, so
it passes as a statement, and is read as an expression.
-/
namespace JavaCensus

/-- The features that a construct needs, whatever its parts need. -/
def Construct.features {α : Type} : Construct α → List Feature
  | .moduleDeclaration .. => [.modules]
  | .typeDeclaration sort _ modifiers _ =>
    (if sort matches .record _ then [.records] else []) ++ ofModifiers modifiers
  | .enumDeclaration _ modifiers _ _ => ofModifiers modifiers
  | .yieldStatement _ => [.yieldStatements]
  | .switchExpression .. => [.switchExpressions]
  | _ => []
where
  ofModifiers (modifiers : List Modifier) : List Feature :=
    if .sealed ∈ modifiers ∨ .nonSealed ∈ modifiers then [.sealedClasses] else []

namespace ParseTree

theorem subset_walkStack (stack : List Met) : stack ⊆ walkStack stack := by
  fun_induction walkStack stack with
  | case1 => exact List.Subset.refl _
  | case2 m rest ih =>
    exact List.cons_subset_cons _ fun _ hm => ih (List.mem_append_right _ hm)

theorem metChildren_subset_walkStack {stack : List Met} {m : Met} (h : m ∈ walkStack stack) :
    m.tree.metChildren ⊆ walkStack stack := by
  fun_induction walkStack stack with
  | case1 => cases h
  | case2 first rest ih =>
    refine List.subset_cons_of_subset _ ?_
    rcases List.mem_cons.1 h with rfl | h
    · exact fun _ hc => subset_walkStack _ (List.mem_append_left _ hc)
    · exact ih h

/-- What stands below a tree that is met is met, from some parent. -/
theorem met_of_mem_walk {stack : List Met} {parent : String} {t u : ParseTree}
    (ht : ⟨some parent, t⟩ ∈ walkStack stack) (hu : u ∈ t.walk) :
    ∃ parent, ⟨some parent, u⟩ ∈ walkStack stack := by
  induction t using ParseTree.induction generalizing parent with
  | step t ih =>
    rw [walk_eq, List.mem_cons, List.mem_flatMap] at hu
    rcases hu with rfl | ⟨c, hc, hu⟩
    · exact ⟨parent, ht⟩
    · exact ih c hc (metChildren_subset_walkStack ht (List.mem_map_of_mem hc)) hu

theorem met_of_mem_children {root c u : ParseTree} (hc : c ∈ root.children) (hu : u ∈ c.walk) :
    ∃ parent, ⟨some parent, u⟩ ∈ root.descendants :=
  met_of_mem_walk (metChildren_subset_walkStack (subset_walkStack _ (List.mem_singleton_self _))
    (List.mem_map_of_mem hc)) hu

end ParseTree

theorem forM_eq_ok {ε α : Type} {f : α → Except ε Unit} {xs : List α} (h : xs.forM f = .ok ()) :
    ∀ x ∈ xs, f x = .ok () := by
  induction xs with
  | nil => exact List.forall_mem_nil _
  | cons x xs ih =>
    obtain ⟨_, hx, h⟩ := bind_eq_ok.1 h
    exact List.forall_mem_cons.2 ⟨hx, ih h⟩

theorem Modifier.keyword_of_ofKeyword? {word : String} {m : Modifier}
    (h : ofKeyword? word = some m) : m.keyword = word :=
  beq_iff_eq.1 (List.find?_some (p := fun m : Modifier => m.keyword == word) h)

namespace Reading

open ParseTree

variable {r : Reading} {level : LanguageLevel} {preview : Bool} {root : ParseTree}

/-- A modifier stands as a word of its own in a group of modifiers. -/
theorem word_of_mem_modifiers {t : ParseTree} {m : Modifier} (h : m ∈ modifiers t) :
    ∃ word ∈ t.walk, word.type = m.keyword := by
  obtain ⟨word, hword, hm⟩ := List.mem_filterMap.1 (mem_distinct.1 h)
  obtain ⟨group, hgroup, hword⟩ := List.mem_flatMap.1 hword
  exact ⟨word, mem_walk_of_below (List.mem_of_mem_filter hgroup) (mem_walk_of_mem_children hword),
    (Modifier.keyword_of_ofKeyword? hm).symm⟩

/-- What the check of the features has let pass uses supported features only. -/
theorem supported_of_checkFeatures (h : r.checkFeatures level preview root = .ok ())
    {m : Met} (hm : m ∈ root.descendants) {f : Feature} (hf : r.feature? m = some f)
    (code : m.tree.isComment = false) : f.supported level preview = true := by
  have passed := forM_eq_ok h m (List.mem_filter.2 ⟨hm, by rw [code]; rfl⟩)
  rw [checkFeature, hf] at passed
  by_contra unsupported
  simp only [if_neg unsupported] at passed
  cases passed

/-- The trees of a type that always asks for a feature. -/
theorem supported_of_type (h : r.checkFeatures level preview root = .ok ()) {parent : Option String}
    {t : ParseTree} (ht : ⟨parent, t⟩ ∈ root.descendants) {f : Feature}
    (type : (t.type, f) ∈ [("module_declaration", Feature.modules),
      ("record_declaration", .records), ("yield_statement", .yieldStatements),
      ("sealed", .sealedClasses), ("non-sealed", .sealedClasses)]) :
    f.supported level preview = true := by
  simp only [List.mem_cons, Prod.mk.injEq, List.not_mem_nil, or_false] at type
  rcases type with ⟨type, rfl⟩ | ⟨type, rfl⟩ | ⟨type, rfl⟩ | ⟨type, rfl⟩ | ⟨type, rfl⟩ <;>
    exact supported_of_checkFeatures h ht (by simp [feature?, type]) (by simp [isComment, type])

theorem supported_of_modifiers (h : r.checkFeatures level preview root = .ok ())
    {c t : ParseTree} (hc : c ∈ root.children) (ht : t ∈ c.walk) {f : Feature}
    (hf : f ∈ Construct.features.ofModifiers (modifiers t)) : f.supported level preview = true := by
  unfold Construct.features.ofModifiers at hf
  split at hf
  · rename_i hidden
    obtain rfl := List.mem_singleton.1 hf
    rcases hidden with hm | hm <;> obtain ⟨word, hword, type⟩ := word_of_mem_modifiers hm <;>
      obtain ⟨parent, met⟩ := met_of_mem_children hc (mem_walk_trans ht hword) <;>
      exact supported_of_type h met (by rw [type]; decide)
  · cases hf

/-- The node is a switch that is read as an expression and stands where a statement may stand. -/
def HeadSwitch (r : Reading) (root : ParseTree) (n : Node) : Prop :=
  ∃ m ∈ root.descendants, m.parentType.any (· ∈ statementParents) = true ∧
    m.tree.type = "switch_expression" ∧ r.Reads .expression m.tree n

/-- The features of a single node are supported, unless it is a switch in the head of a loop. -/
theorem Reads.features_supported (h : r.checkFeatures level preview root = .ok ())
    {role : Role} {c t : ParseTree} {n : Node} (hc : c ∈ root.children) (ht : t ∈ c.walk)
    (reads : r.Reads role t n) {f : Feature} (hf : f ∈ n.construct.features) :
    f.supported level preview = true ∨ f = .switchExpressions ∧ r.HeadSwitch root n := by
  obtain ⟨parent, met⟩ := met_of_mem_children hc ht
  have whole := reads
  induction reads with
  | localType _ reads ih | localBlock _ reads ih | memberType _ reads ih => exact ih ht hf met reads
  | switchExpression type =>
    obtain rfl := List.mem_singleton.1 hf
    by_cases statement : parent ∈ statementParents
    · exact .inr ⟨rfl, _, met, by simpa using statement, type, whole⟩
    · exact .inl (supported_of_checkFeatures h met (by simp [feature?, type, statement])
        (by simp [isComment, type]))
  | yieldStatement type =>
    obtain rfl := List.mem_singleton.1 hf
    exact .inl (supported_of_type h met (by rw [type]; decide))
  | typeDeclaration form =>
    rcases List.mem_append.1 hf with hf | hf
    · cases form with
      | record type =>
        obtain rfl := List.mem_singleton.1 hf
        exact .inl (supported_of_type h met (by rw [type]; decide))
      | _ => cases hf
    · exact .inl (supported_of_modifiers h hc ht hf)
  | enumDeclaration => exact .inl (supported_of_modifiers h hc ht hf)
  | _ => cases hf

end Reading

namespace Node

/-- Of a module and its directives, only the module needs a feature, its own. -/
theorem Serves.feature_of_module {n k : Node} (h : n.Serves .module) (hk : k ∈ n.walk)
    {f : Feature} (hf : f ∈ k.construct.features) : f = .modules := by
  obtain ⟨own, parts⟩ := h
  obtain ⟨span, slots, construct⟩ := n
  cases construct with
  | moduleDeclaration name isOpen directives =>
    rw [walk_eq, List.mem_cons, List.mem_flatMap] at hk
    rcases hk with rfl | ⟨d, hd, hk⟩
    · exact List.mem_singleton.1 hf
    · obtain ⟨own, -⟩ := parts (.directive, d) (List.mem_map_of_mem hd)
      obtain ⟨span, slots, construct⟩ := d
      cases construct with
      | moduleDirective kind name =>
        obtain rfl := List.mem_singleton.1 (by rwa [walk_eq] at hk)
        cases hf
      | _ => cases own
  | _ => cases own

end Node

namespace Reading

open ParseTree

variable {r : Reading} {level : LanguageLevel} {preview : Bool} {root : ParseTree}

/-- A node that stands directly in a unit. -/
inductive Stands (r : Reading) (root : ParseTree) : Node → Prop where
  | package {t : ParseTree} :
      Stands r root (r.node t (.packageDeclaration (r.qualifiedName t)))
  | import {t : ParseTree} : Stands r root (r.importDeclaration t)
  | module {t : ParseTree} {n : Node} (type : t.type = "module_declaration")
      (ht : t ∈ root.children) (reads : r.moduleDeclaration t = .ok n) : Stands r root n
  | type {t : ParseTree} {n : Node} (ht : t ∈ root.children) (reads : r.Reads .type t n) :
      Stands r root n

theorem unitOf_stands {parse : Parse} {unit : Node}
    (h : r.unitOf level preview parse = .ok unit) :
    unit.construct.features = [] ∧ ∀ c ∈ unit.children, r.Stands parse.root c := by
  have parts := unitOf_children h
  obtain ⟨_, _, _, rfl⟩ := unitOf_reads h
  refine ⟨rfl, fun c hc => ?_⟩
  obtain ⟨t, ht, top, reads, rfl⟩ := parts c hc
  have ht := mem_children_of_mem_namedChildren ht
  cases reads with
  | package => exact .package
  | «import» => exact .import
  | module type reads => exact .module type ht reads
  | type _ reads => exact .type ht reads

/-- A unit that has been admitted uses supported features only, switches in the heads of loops
apart. -/
theorem unitOf_features_supported {parse : Parse} {unit : Node}
    (h : r.unitOf level preview parse = .ok unit) {n : Node} (hn : n ∈ unit.walk) {f : Feature}
    (hf : f ∈ n.construct.features) :
    f.supported level preview = true ∨ f = .switchExpressions ∧ r.HeadSwitch parse.root n := by
  have features : r.checkFeatures level preview parse.root = .ok () := by
    unfold unitOf at h
    obtain ⟨_, _, h⟩ := bind_eq_ok.1 h
    obtain ⟨_, features, _⟩ := bind_eq_ok.1 h
    exact features
  obtain ⟨bare, stands⟩ := unitOf_stands h
  rw [Node.walk_eq, List.mem_cons, List.mem_flatMap] at hn
  rcases hn with rfl | ⟨c, hc, hn⟩
  · rw [bare] at hf
    cases hf
  cases stands c hc with
  | package | «import» =>
    obtain rfl := List.mem_singleton.1 (by rwa [Node.walk_eq] at hn)
    cases hf
  | module type ht reads =>
    obtain rfl := (moduleDeclaration_serves reads).feature_of_module hn hf
    obtain ⟨parent, met⟩ := met_of_mem_children ht (mem_walk_self _)
    exact .inl (supported_of_type features met (by rw [type]; decide))
  | type ht reads =>
    obtain ⟨role, u, hu, reads⟩ := reads.origin hn
    exact reads.features_supported features ht hu hf

/-! ## A switch in the head of a loop -/

section HeadOfLoop

def headSource : SourceText :=
  .ofString "class A\x7b\x7bfor(;switch(x)\x7b\x7d;)\x7b\x7d\x7d\x7d"

def headSelector : ParseTree :=
  ⟨"parenthesized_expression", true, false, 20, 23, some "condition",
    [⟨"(", false, false, 20, 21, none, []⟩, ⟨"identifier", true, false, 21, 22, none, []⟩,
      ⟨")", false, false, 22, 23, none, []⟩]⟩

def headEntries : ParseTree :=
  ⟨"switch_block", true, false, 23, 25, some "body",
    [⟨"\x7b", false, false, 23, 24, none, []⟩, ⟨"\x7d", false, false, 24, 25, none, []⟩]⟩

def headSwitch : ParseTree :=
  ⟨"switch_expression", true, false, 14, 25, some "condition",
    [⟨"switch", false, false, 14, 20, none, []⟩, headSelector, headEntries]⟩

def headLoopBody : ParseTree :=
  ⟨"block", true, false, 27, 29, some "body",
    [⟨"\x7b", false, false, 27, 28, none, []⟩, ⟨"\x7d", false, false, 28, 29, none, []⟩]⟩

def headLoop : ParseTree :=
  ⟨"for_statement", true, false, 9, 29, none,
    [⟨"for", false, false, 9, 12, none, []⟩, ⟨"(", false, false, 12, 13, none, []⟩,
      ⟨";", false, false, 13, 14, none, []⟩, headSwitch, ⟨";", false, false, 25, 26, none, []⟩,
      ⟨")", false, false, 26, 27, none, []⟩, headLoopBody]⟩

def headInitializer : ParseTree :=
  ⟨"block", true, false, 8, 30, none,
    [⟨"\x7b", false, false, 8, 9, none, []⟩, headLoop, ⟨"\x7d", false, false, 29, 30, none, []⟩]⟩

def headBody : ParseTree :=
  ⟨"class_body", true, false, 7, 31, some "body",
    [⟨"\x7b", false, false, 7, 8, none, []⟩, headInitializer,
      ⟨"\x7d", false, false, 30, 31, none, []⟩]⟩

def headClass : ParseTree :=
  ⟨"class_declaration", true, false, 0, 31, none,
    [⟨"class", false, false, 0, 5, none, []⟩, ⟨"identifier", true, false, 6, 7, some "name", []⟩,
      headBody]⟩

def headParse : Parse :=
  ⟨⟨"program", true, false, 0, 31, none, [headClass]⟩, false⟩

def headSwitchNode : Node :=
  .bare (.ofLines 1 15 1 25)
    (.switchExpression (.bare (.ofLines 1 21 1 23) (.plainExpression [])) [])

def headUnit : Node :=
  let loop : Node := .bare (.ofLines 1 10 1 29)
    (.forStatement [] (some headSwitchNode) [] (.bare (.ofLines 1 28 1 29) (.block [])))
  let block : Node := .bare (.ofLines 1 9 1 30) (.block [loop])
  .bare (.ofLines 1 1 1 31) (.compilationUnit none []
    [.bare (.ofLines 1 1 1 31)
      (.typeDeclaration .class "A" [] [.bare (.ofLines 1 9 1 30) (.initializerBlock block false)])]
    none)

def eighth : LanguageLevel := ⟨8, by decide⟩

def headReading : Reading := ⟨"A.java", headSource⟩

theorem expression_headSwitch : headReading.expression headSwitch = .ok headSwitchNode := by
  have nested : outermostCode headSelector.namedChildren = [] := by
    simp [headSelector, namedChildren, outermostCode, holdsCode]
  have selector : headReading.expression headSelector =
      .ok (.bare (.ofLines 1 21 1 23) (.plainExpression [])) := by
    rw [expression_eq]
    show headReading.plainExpression headSelector = _
    rw [plainExpression_eq, nested]
    rfl
  have entries : headReading.switchEntries headEntries = .ok [] := by
    rw [switchEntries_eq]
    rfl
  rw [expression_eq]
  show (do
    let selector ← headReading.expression headSelector
    let entries ← headReading.switchEntries headEntries
    return headReading.node headSwitch (.switchExpression selector entries)) = _
  rw [selector, entries]
  rfl

theorem statement_headLoop : headReading.statement headLoop =
    .ok (.bare (.ofLines 1 10 1 29) (.forStatement [] (some headSwitchNode) []
      (.bare (.ofLines 1 28 1 29) (.block [])))) := by
  have inner : headReading.statement headLoopBody =
      .ok (.bare (.ofLines 1 28 1 29) (.block [])) := by
    rw [statement_eq]
    show headReading.block headLoopBody = _
    rw [block_eq]
    rfl
  rw [statement_eq]
  show headReading.forStatement headLoop = _
  rw [forStatement_eq]
  show (do
    let body ← headReading.statement headLoopBody
    let condition ← (some headSwitch).mapM headReading.expression
    return headReading.node headLoop (.forStatement [] condition [] body)) = _
  rw [inner]
  show ((some headSwitch).mapM headReading.expression >>= fun condition =>
    return headReading.node headLoop (.forStatement [] condition [] _)) = _
  rw [bind_mapM_some, expression_headSwitch]
  rfl

theorem unitOf_headParse : headReading.unitOf eighth false headParse = .ok headUnit := by
  have walked : (headParse.root.descendants.filter fun m => !m.tree.isComment) =
      headParse.root.descendants.filter fun m => !m.tree.isComment := rfl
  conv_rhs at walked => cbv
  have features : headReading.checkFeatures eighth false headParse.root = .ok () := by
    rw [checkFeatures, walked]
    rfl
  have block : headReading.block headInitializer = (do
      return .bare (.ofLines 1 9 1 30) (.block (← [headLoop].mapM headReading.statement))) := by
    rw [block_eq]
    rfl
  have member : headReading.member [] headInitializer = (do
      return .bare (.ofLines 1 9 1 30)
        (.initializerBlock (← headReading.block headInitializer) false)) := by
    rw [member_eq]
    rfl
  have type : headReading.typeDeclaration headClass = (do
      return .bare (.ofLines 1 1 1 31) (.typeDeclaration .class "A" []
        (← [headInitializer].mapM (headReading.member [])))) := by
    rw [Reading.typeDeclaration, bodyMembers_eq]
    rfl
  have top : headReading.topLevel headClass = .type <$> headReading.typeDeclaration headClass := rfl
  have unit : headReading.unitOf eighth false headParse =
      ([headClass].mapM headReading.topLevel >>= headReading.assemble headParse.root) := by
    rw [unitOf, features]
    rfl
  rw [List.mapM_cons, statement_headLoop] at block
  rw [List.mapM_cons, member, block] at type
  rw [unit, List.mapM_cons, top, type]
  rfl

theorem headSwitchNode_mem_walk : headSwitchNode ∈ headUnit.walk := by
  have child {n c : Node} (h : c ∈ n.children) : c ∈ n.walk :=
    Node.mem_walk_of_mem_children h c.mem_walk_self
  have type := child (n := headUnit) (List.mem_singleton_self _)
  have initializer := Node.mem_walk_trans type (child (List.mem_singleton_self _))
  have block := Node.mem_walk_trans initializer (child (List.mem_singleton_self _))
  have loop := Node.mem_walk_trans block (child (List.mem_singleton_self _))
  exact Node.mem_walk_trans loop (child (List.mem_cons_self ..))

theorem unitOf_headParse_features :
    headReading.unitOf eighth false headParse = .ok headUnit ∧ headSwitchNode ∈ headUnit.walk ∧
      .switchExpressions ∈ headSwitchNode.construct.features ∧
      (Feature.switchExpressions.supported eighth false = true ∨
        Feature.switchExpressions = .switchExpressions ∧
          headReading.HeadSwitch headParse.root headSwitchNode) :=
  ⟨unitOf_headParse, headSwitchNode_mem_walk, List.mem_singleton_self _,
    unitOf_features_supported unitOf_headParse headSwitchNode_mem_walk (List.mem_singleton_self _)⟩

/-- The exception is met: a release without switch expressions admits one in the head of a loop. -/
theorem unitOf_headParse_unsupported :
    ∃ unit, headReading.unitOf eighth false headParse = .ok unit ∧
      ∃ n ∈ unit.walk, ∃ f ∈ n.construct.features, f.supported eighth false = false :=
  ⟨headUnit, unitOf_headParse, headSwitchNode, headSwitchNode_mem_walk, .switchExpressions,
    List.mem_singleton_self _, by decide⟩

end HeadOfLoop

end Reading

end JavaCensus
