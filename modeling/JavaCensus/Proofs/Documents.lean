import JavaCensus.Json.Access
import JavaCensus.Proofs.FlatTotals
import JavaCensus.Report.Document

/-!
# The document report is lossless and consistent

A document tells which metrics tree it was made of: no two trees have the same one. And it bears
itself out: whoever has nothing but the document can recount every summary that stands in it.
-/
namespace JavaCensus

namespace Json

/-! ## Counters in a document -/

/-- Counters by name; those that are not there are zero. -/
def commentCounts (j : Json) : CommentCounts :=
  ⟨(j.member "line_comments").toInt, (j.member "line_comments_length").toInt,
    (j.member "block_comments").toInt, (j.member "block_comment_lines").toInt,
    (j.member "block_comments_length").toInt, (j.member "doc_comments").toInt,
    (j.member "doc_comment_lines").toInt, (j.member "doc_comments_length").toInt⟩

def totals (j : Json) : Totals :=
  ⟨(j.member "modular_compilation_units").toInt, (j.member "packages").toInt,
    (j.member "compilation_units").toInt, (j.member "types").toInt, (j.member "methods").toInt,
    (j.member "fields").toInt, (j.member "statements").toInt, j.commentCounts⟩

@[simp]
theorem commentCounts_document (c : CommentCounts) : c.document.commentCounts = c :=
  rfl

@[simp]
theorem elements_null : null.elements = [] :=
  rfl

@[simp]
theorem elements_array (es : List Json) : (array es).elements = es :=
  rfl

@[simp]
theorem toInt_null : null.toInt = 0 :=
  rfl

@[simp]
theorem toInt_int (n : Int) : (int n).toInt = n :=
  rfl

@[simp]
theorem member?_object (ms : List (String × Json)) (key : String) :
    (object ms).member? key = (ms.reverse.find? (·.1 == key)).map (·.2) :=
  rfl

/-! ## Recounting a summary -/

/-- The comments and statements that an object holds itself. -/
def held (o : Json) : Totals :=
  ⟨0, 0, 0, 0, 0, 0, (o.member "statements").toInt, (o.member "comments").commentCounts⟩

theorem held_eq (o : Json) : o.held = .ofComments (o.member "comments").commentCounts +
    .ofStatements (o.member "statements").toInt := by
  simp [held, Totals.add_def, Totals.ofComments, Totals.ofStatements, Totals.zero]

/-- The summary of an object, or what it holds itself if it has none. -/
def content (o : Json) : Totals :=
  match o.member? "summary" with
  | some s => s.totals
  | none => o.held

/-- The names under which lists of elements stand, with the one that each element counts at its
level. -/
def levels : List (String × Totals) :=
  [("modular_compilation_units", ⟨1, 0, 0, 0, 0, 0, 0, 0⟩),
    ("packages", ⟨0, 1, 0, 0, 0, 0, 0, 0⟩), ("compilation_units", ⟨0, 0, 1, 0, 0, 0, 0, 0⟩),
    ("types", ⟨0, 0, 0, 1, 0, 0, 0, 0⟩), ("fields", ⟨0, 0, 0, 0, 0, 1, 0, 0⟩),
    ("methods", ⟨0, 0, 0, 0, 1, 0, 0, 0⟩), ("inner_types", ⟨0, 0, 0, 1, 0, 0, 0, 0⟩),
    ("local_types", ⟨0, 0, 0, 1, 0, 0, 0, 0⟩)]

theorem levels_eq : levels =
    [("modular_compilation_units", .oneModularUnit), ("packages", .onePackage),
      ("compilation_units", .oneUnit), ("types", .oneType), ("fields", .oneField),
      ("methods", .oneMethod), ("inner_types", .oneType), ("local_types", .oneType)] :=
  rfl

/-- What the elements in the lists of an object add up to, list by list. -/
def listed (o : Json) : List Totals :=
  levels.map fun l => ((o.listOf l.1).map fun e => l.2 + e.content).sum

/-- What the modules of the modular units in an object hold. A module stands in no list. -/
def modulesHeld (o : Json) : Totals :=
  ((o.listOf "modular_compilation_units").map fun u => (u.member "module").held).sum

/-- The summary of an object, counted from what stands in the object. -/
def recount (o : Json) : Totals :=
  o.held + o.listed.sum + o.modulesHeld

theorem recount_without_modules {o : Json} (none : o.member? "modular_compilation_units" = none) :
    o.recount = o.held + o.listed.sum := by
  have modules : o.modulesHeld = 0 := by
    simp [modulesHeld, listOf, member, none]
  rw [recount, modules, add_zero]

/-! ## Summaries -/

/-- The names of the counters of a summary. -/
def summaryKeys : List String :=
  ["modular_compilation_units", "packages", "compilation_units", "types", "methods", "fields",
    "statements", "line_comments", "line_comments_length", "block_comments", "block_comment_lines",
    "block_comments_length", "doc_comments", "doc_comment_lines", "doc_comments_length"]

/-- The value is an object with one number for each counter, and the numbers are those of `t`. -/
structure Tells (s : Json) (t : Totals) : Prop where
  keys : s.members.map (·.1) = summaryKeys
  numbers : ∀ m ∈ s.members, ∃ n, m.2 = int n
  totals : s.totals = t

/-- The lists whose elements have summaries. -/
def summarized : List String :=
  ["packages", "compilation_units", "types", "methods", "inner_types", "local_types"]

/-- The summary of the object, if it has one, is what one gets by recounting, and the elements in
its lists have theirs. -/
structure BornOut (o : Json) : Prop where
  summary : ∀ s, o.member? "summary" = some s → s.Tells o.recount
  elements : ∀ key ∈ summarized, ∀ e ∈ o.listOf key, ∃ s, e.member? "summary" = some s

theorem bornOut_of_no_members {o : Json} (none : o.members = []) : o.BornOut := by
  have missing (key : String) : o.member? key = Option.none := by
    simp [member?, none]
  constructor
  · intro s hs
    rw [missing] at hs
    cases hs
  · intro key _ e he
    rw [listOf, member, missing] at he
    cases he

/-! ## Values within a document -/

mutual

/-- The value and all values nested in it. -/
def walk : Json → List Json
  | array elements => array elements :: walkElements elements
  | object members => object members :: walkMembers members
  | j => [j]

def walkElements : List Json → List Json
  | [] => []
  | e :: es => walk e ++ walkElements es

def walkMembers : List (String × Json) → List Json
  | [] => []
  | (_, value) :: ms => walk value ++ walkMembers ms

end

theorem walkElements_eq (es : List Json) : walkElements es = es.flatMap walk := by
  induction es with
  | nil => rfl
  | cons e es ih => rw [walkElements, ih, List.flatMap_cons]

theorem walkMembers_eq (ms : List (String × Json)) :
    walkMembers ms = ms.flatMap fun m => m.2.walk := by
  induction ms with
  | nil => rfl
  | cons m ms ih => rw [walkMembers, ih, List.flatMap_cons]

/-- Every object in the value is borne out by what stands in it. -/
def Consistent (j : Json) : Prop :=
  ∀ o ∈ j.walk, o.BornOut

theorem consistent_of_scalar {j : Json} (walk : j.walk = [j]) (none : j.members = []) :
    j.Consistent := by
  intro o ho
  rw [walk, List.mem_singleton] at ho
  subst ho
  exact bornOut_of_no_members none

@[simp]
theorem consistent_null : null.Consistent :=
  consistent_of_scalar rfl rfl

@[simp]
theorem consistent_bool (b : Bool) : (bool b).Consistent :=
  consistent_of_scalar rfl rfl

@[simp]
theorem consistent_int (n : Int) : (int n).Consistent :=
  consistent_of_scalar rfl rfl

@[simp]
theorem consistent_string (s : String) : (string s).Consistent :=
  consistent_of_scalar rfl rfl

theorem consistent_array {es : List Json} (h : ∀ e ∈ es, e.Consistent) :
    (array es).Consistent := by
  intro o ho
  rw [walk, walkElements_eq, List.mem_cons, List.mem_flatMap] at ho
  rcases ho with rfl | ⟨e, he, ho⟩
  · exact bornOut_of_no_members rfl
  · exact h e he o ho

theorem consistent_object {ms : List (String × Json)} (own : (object ms).BornOut)
    (h : ∀ m ∈ ms, m.2.Consistent) : (object ms).Consistent := by
  intro o ho
  rw [walk, walkMembers_eq, List.mem_cons, List.mem_flatMap] at ho
  rcases ho with rfl | ⟨m, hm, ho⟩
  · exact own
  · exact h m hm o ho

/-- An object with neither a summary nor lists of elements with summaries. -/
theorem consistent_without_summary {ms : List (String × Json)}
    (none : (object ms).member? "summary" = none)
    (lists : ∀ key ∈ summarized, (object ms).listOf key = [])
    (h : ∀ m ∈ ms, m.2.Consistent) : (object ms).Consistent := by
  refine consistent_object ⟨fun s hs => ?_, fun key hkey e he => ?_⟩ h
  · rw [none] at hs
    cases hs
  · rw [lists key hkey] at he
    cases he

theorem consistent_with_summary {ms : List (String × Json)} {s : Json} {t : Totals}
    (summary : (object ms).member? "summary" = some s) (tells : s.Tells t)
    (recount : (object ms).recount = t)
    (lists : ∀ key ∈ summarized, ∀ e ∈ (object ms).listOf key, ∃ s, e.member? "summary" = some s)
    (h : ∀ m ∈ ms, m.2.Consistent) : (object ms).Consistent := by
  refine consistent_object ⟨fun s' hs => ?_, lists⟩ h
  rw [summary, Option.some.injEq] at hs
  rw [recount, ← hs]
  exact tells

end Json

open Json

/-! ## Elements of a document -/

theorem Totals.ofStatements_zero : Totals.ofStatements 0 = 0 :=
  rfl

/-- The summary that is written for totals tells them. -/
theorem Totals.tells_document (t : Totals) : t.document.Tells t where
  keys := rfl
  numbers := by simp [Totals.document, Json.members, CommentCounts.members]
  totals := rfl

@[simp]
theorem CommentCounts.consistent_document (c : CommentCounts) : c.document.Consistent := by
  refine consistent_without_summary rfl (fun key hkey => ?_) ?_
  · fin_cases hkey <;> rfl
  · simp [CommentCounts.members]

@[simp]
theorem Totals.consistent_document (t : Totals) : t.document.Consistent := by
  refine consistent_without_summary rfl (fun key hkey => ?_) ?_
  · fin_cases hkey <;> rfl
  · simp [CommentCounts.members]

@[simp]
theorem FieldElement.content_document (f : FieldElement CommentCounts) :
    f.document.content = f.content :=
  Json.held_eq f.document

@[simp]
theorem FieldElement.consistent_document (f : FieldElement CommentCounts) :
    f.document.Consistent := by
  refine consistent_without_summary rfl (fun key hkey => ?_) ?_
  · fin_cases hkey <;> rfl
  · simp

@[simp]
theorem TypeElement.content_document (t : TypeElement CommentCounts) :
    t.document.content = t.content := by
  cases t
  rfl

@[simp]
theorem MethodElement.content_document (m : MethodElement CommentCounts) :
    m.document.content = m.content := by
  cases m
  rfl

@[simp]
theorem UnitElement.content_document (u : UnitElement CommentCounts) :
    u.document.content = u.content :=
  rfl

@[simp]
theorem PackageElement.content_document (p : Package) : p.document.content = p.content :=
  rfl

/-- A modular unit has no summary, and what its module holds is counted apart. -/
theorem ModularUnitElement.content_document (u : ModularUnit) :
    u.document.content + u.module.document.held = u.content := by
  have own : u.document.content = .ofComments u.comments + .ofStatements 0 := by
    simp [Json.content, Json.held_eq, Json.member, ModularUnitElement.document]
  have module : u.module.document.held = .ofComments u.module.comments + .ofStatements 0 := by
    simp [Json.held_eq, Json.member, ModuleElement.document]
  rw [own, module, Totals.ofStatements_zero, add_zero, add_zero, ModularUnitElement.content,
    ModuleElement.total, zero_add, ModuleElement.content]

/-! ## Recounting elements -/

theorem MethodElement.recount_document (m : MethodElement CommentCounts) :
    m.document.recount = m.content := by
  cases m with
  | mk name kind statements comments localTypes =>
    have own : (MethodElement.mk name kind statements comments localTypes).document.held =
        .ofComments comments + .ofStatements statements := by
      simp [Json.held_eq, Json.member, MethodElement.document]
    have lists : (MethodElement.mk name kind statements comments localTypes).document.listed =
        [0, 0, 0, 0, 0, 0, 0, (localTypes.map (·.total)).sum] := by
      simp [-List.sum_map_add, Json.listed, Json.levels_eq, Json.listOf, Json.member,
        MethodElement.document, TypeElement.documents_eq, TypeElement.total, Function.comp_def]
    rw [Json.recount_without_modules rfl, own, lists, MethodElement.content, TypeElement.totals_eq,
      Totals.sum_eq]
    simp only [List.sum_cons, List.sum_nil, zero_add, add_zero]

theorem TypeElement.recount_document (t : TypeElement CommentCounts) :
    t.document.recount = t.content := by
  cases t with
  | mk name kind comments fields methods innerTypes =>
    have own : (TypeElement.mk name kind comments fields methods innerTypes).document.held =
        .ofComments comments + .ofStatements 0 := by
      simp [Json.held_eq, Json.member, TypeElement.document]
    have lists : (TypeElement.mk name kind comments fields methods innerTypes).document.listed =
        [0, 0, 0, 0, (fields.map (·.total)).sum, (methods.map (·.total)).sum,
          (innerTypes.map (·.total)).sum, 0] := by
      simp [-List.sum_map_add, Json.listed, Json.levels_eq, Json.listOf, Json.member,
        TypeElement.document, TypeElement.documents_eq, MethodElement.documents_eq,
        FieldElement.total, MethodElement.total, TypeElement.total, Function.comp_def]
    rw [Json.recount_without_modules rfl, own, lists, TypeElement.content, TypeElement.totals_eq,
      MethodElement.totals_eq]
    simp only [Totals.ofStatements_zero, Totals.sum_eq, List.sum_cons, List.sum_nil, zero_add,
      add_zero, add_assoc]

theorem UnitElement.recount_document (u : UnitElement CommentCounts) :
    u.document.recount = u.content := by
  have own : u.document.held = .ofComments u.comments + .ofStatements 0 := by
    simp [Json.held_eq, Json.member, UnitElement.document]
  have lists : u.document.listed = [0, 0, 0, (u.types.map (·.total)).sum, 0, 0, 0, 0] := by
    simp [-List.sum_map_add, Json.listed, Json.levels_eq, Json.listOf, Json.member,
      UnitElement.document, TypeElement.total, Function.comp_def]
  rw [Json.recount_without_modules rfl, own, lists, UnitElement.content, Totals.sum_eq]
  simp only [Totals.ofStatements_zero, List.sum_cons, List.sum_nil, zero_add, add_zero]

theorem PackageElement.recount_document (p : Package) : p.document.recount = p.content := by
  have own : p.document.held = .ofComments p.comments + .ofStatements 0 := by
    simp [Json.held_eq, Json.member, PackageElement.document]
  have lists : p.document.listed = [0, 0, (p.units.map (·.total)).sum, 0, 0, 0, 0, 0] := by
    simp [-List.sum_map_add, Json.listed, Json.levels_eq, Json.listOf, Json.member,
      PackageElement.document, UnitElement.total, Function.comp_def]
  rw [Json.recount_without_modules rfl, own, lists, PackageElement.content, Totals.sum_eq]
  simp only [Totals.ofStatements_zero, List.sum_cons, List.sum_nil, zero_add, add_zero]

/-- The modular units and their modules count in two sums of the document, in one of the census. -/
theorem Census.recount_document (c : Census) (m : Metadata) :
    (c.document m).recount = c.total := by
  have own : (c.document m).held = 0 := rfl
  have lists : (c.document m).listed =
      [(c.modularUnits.map fun u => .oneModularUnit + u.document.content).sum,
        (c.packages.map (·.total)).sum, 0, 0, 0, 0, 0, 0] := by
    simp [-List.sum_map_add, Json.listed, Json.levels_eq, Json.listOf, Json.member, Census.document,
      PackageElement.total, Function.comp_def]
  have modules : (c.document m).modulesHeld =
      (c.modularUnits.map fun u => u.module.document.held).sum := by
    simp [Json.modulesHeld, Json.listOf, Json.member, Census.document, ModularUnitElement.document,
      Function.comp_def]
  have modular : (c.modularUnits.map (·.total)).sum =
      (c.modularUnits.map fun u => .oneModularUnit + u.document.content).sum +
        (c.modularUnits.map fun u => u.module.document.held).sum := by
    rw [← List.sum_map_add]
    refine congrArg List.sum (List.map_congr_left fun u _ => ?_)
    rw [add_assoc, u.content_document, ModularUnitElement.total]
  rw [Json.recount, own, lists, modules, Census.total, Census.content, Totals.sum_eq,
    List.sum_append,
    modular]
  simp only [List.sum_cons, List.sum_nil, zero_add, add_zero]
  exact add_right_comm _ _ _

/-! ## Consistency -/

@[simp]
theorem TypeElement.summary_document (t : TypeElement CommentCounts) :
    t.document.member? "summary" = some t.content.document := by
  cases t
  rfl

@[simp]
theorem MethodElement.summary_document (m : MethodElement CommentCounts) :
    m.document.member? "summary" = some m.content.document := by
  cases m
  rfl

@[simp]
theorem UnitElement.summary_document (u : UnitElement CommentCounts) :
    u.document.member? "summary" = some u.content.document :=
  rfl

@[simp]
theorem PackageElement.summary_document (p : Package) :
    p.document.member? "summary" = some p.content.document :=
  rfl

theorem TypeElement.consistent_document (t : TypeElement CommentCounts) :
    t.document.Consistent := by
  induction t using TypeElement.induction (Q := fun m => m.document.Consistent) with
  | type t methods innerTypes =>
    have recount := t.recount_document
    cases t with
    | mk name kind comments fields ms ts =>
      refine consistent_with_summary rfl (Totals.tells_document _) recount ?_ ?_
      · simp [summarized, Json.listOf, Json.member, TypeElement.documents_eq,
          MethodElement.documents_eq]
      have ofFields : (array (fields.map (·.document))).Consistent :=
        consistent_array (List.forall_mem_map.2 fun f _ => f.consistent_document)
      have ofMethods : (array (MethodElement.documents ms)).Consistent := by
        rw [MethodElement.documents_eq]
        exact consistent_array (List.forall_mem_map.2 methods)
      have ofTypes : (array (TypeElement.documents ts)).Consistent := by
        rw [TypeElement.documents_eq]
        exact consistent_array (List.forall_mem_map.2 innerTypes)
      simp [ofFields, ofMethods, ofTypes]
  | method m localTypes =>
    have recount := m.recount_document
    cases m with
    | mk name kind statements comments ts =>
      refine consistent_with_summary rfl (Totals.tells_document _) recount ?_ ?_
      · simp [summarized, Json.listOf, Json.member, TypeElement.documents_eq]
      have ofTypes : (array (TypeElement.documents ts)).Consistent := by
        rw [TypeElement.documents_eq]
        exact consistent_array (List.forall_mem_map.2 localTypes)
      simp [ofTypes]

theorem UnitElement.consistent_document (u : UnitElement CommentCounts) :
    u.document.Consistent := by
  refine consistent_with_summary rfl (Totals.tells_document _) u.recount_document ?_ ?_
  · simp [summarized, Json.listOf, Json.member]
  have types : (array (u.types.map (·.document))).Consistent :=
    consistent_array (List.forall_mem_map.2 fun t _ => t.consistent_document)
  simp [types]

theorem PackageElement.consistent_document (p : Package) : p.document.Consistent := by
  refine consistent_with_summary rfl (Totals.tells_document _) p.recount_document ?_ ?_
  · simp [summarized, Json.listOf, Json.member]
  have units : (array (p.units.map (·.document))).Consistent :=
    consistent_array (List.forall_mem_map.2 fun u _ => u.consistent_document)
  simp [units]

theorem ModularUnitElement.consistent_document (u : ModularUnit) : u.document.Consistent := by
  have module : u.module.document.Consistent := by
    refine consistent_without_summary rfl (fun key hkey => ?_) ?_
    · fin_cases hkey <;> rfl
    · simp
  refine consistent_without_summary rfl (fun key hkey => ?_) ?_
  · fin_cases hkey <;> rfl
  · simp [module]

theorem Json.consistent_ofText? (text : Option String) : (Json.ofText? text).Consistent := by
  cases text with
  | none => exact consistent_null
  | some text => exact consistent_string text

theorem Census.consistent_document (c : Census) (m : Metadata) : (c.document m).Consistent := by
  refine consistent_with_summary rfl (Totals.tells_document _) (c.recount_document m) ?_ ?_
  · simp [summarized, Json.listOf, Json.member]
  have modularUnits : (array (c.modularUnits.map (·.document))).Consistent :=
    consistent_array (List.forall_mem_map.2 fun u _ => u.consistent_document)
  have packages : (array (c.packages.map (·.document))).Consistent :=
    consistent_array (List.forall_mem_map.2 fun p _ => p.consistent_document)
  simp [modularUnits, packages, Json.consistent_ofText?]

/-! ## Losslessness -/

/-- Lists with the same images are the same if the images tell the elements of the first one. -/
theorem eq_of_map_eq_map {α β : Type} {f : α → β} {xs ys : List α}
    (tells : ∀ x ∈ xs, ∀ y, f x = f y → x = y) (h : xs.map f = ys.map f) : xs = ys := by
  induction xs generalizing ys with
  | nil => exact (List.map_eq_nil_iff.1 h.symm).symm
  | cons x xs ih =>
    cases ys with
    | nil => cases h
    | cons y ys =>
      rw [List.map_cons, List.map_cons, List.cons.injEq] at h
      rw [tells x (List.mem_cons_self ..) y h.1,
        ih (fun z hz => tells z (List.mem_cons_of_mem _ hz)) h.2]

theorem ElementName.ext_text {a b : ElementName} (h : a.text = b.text) : a = b := by
  cases a
  cases b
  cases h
  rfl

theorem TypeKind.text_injective : Function.Injective TypeKind.text := by
  intro a b h
  cases a <;> cases b <;> first | rfl | (revert h; decide)

theorem MethodKind.text_injective : Function.Injective MethodKind.text := by
  intro a b h
  cases a <;> cases b <;> first | rfl | (revert h; decide)

theorem FieldKind.text_injective : Function.Injective FieldKind.text := by
  intro a b h
  cases a <;> cases b <;> first | rfl | (revert h; decide)

theorem CommentCounts.document_injective : Function.Injective CommentCounts.document :=
  Function.LeftInverse.injective commentCounts_document

theorem FieldElement.document_injective : Function.Injective FieldElement.document := by
  intro f g h
  simp only [FieldElement.document, object.injEq, List.cons.injEq, Prod.mk.injEq, string.injEq,
    int.injEq, true_and, and_true] at h
  obtain ⟨name, kind, statements, comments⟩ := h
  cases f
  cases g
  rw [FieldElement.mk.injEq]
  exact ⟨ElementName.ext_text name, FieldKind.text_injective kind, statements,
    CommentCounts.document_injective comments⟩

theorem TypeElement.eq_of_document_eq (t u : TypeElement CommentCounts)
    (h : t.document = u.document) : t = u := by
  induction t using TypeElement.induction
    (Q := fun m => ∀ k : MethodElement CommentCounts, m.document = k.document → m = k)
    generalizing u with
  | type t methods innerTypes =>
    cases t
    cases u
    simp only [TypeElement.document, TypeElement.documents_eq, MethodElement.documents_eq,
      object.injEq, List.cons.injEq, Prod.mk.injEq, string.injEq, array.injEq, true_and,
      and_true] at h
    obtain ⟨name, kind, -, comments, fields, ms, ts⟩ := h
    rw [TypeElement.mk.injEq]
    exact ⟨ElementName.ext_text name, TypeKind.text_injective kind,
      CommentCounts.document_injective comments,
      List.map_injective_iff.2 FieldElement.document_injective fields,
      eq_of_map_eq_map methods ms, eq_of_map_eq_map innerTypes ts⟩
  | method m localTypes k h =>
    cases m
    cases k
    simp only [MethodElement.document, TypeElement.documents_eq, object.injEq, List.cons.injEq,
      Prod.mk.injEq, string.injEq, int.injEq, array.injEq, true_and, and_true] at h
    obtain ⟨name, kind, statements, -, comments, ts⟩ := h
    rw [MethodElement.mk.injEq]
    exact ⟨ElementName.ext_text name, MethodKind.text_injective kind, statements,
      CommentCounts.document_injective comments, eq_of_map_eq_map localTypes ts⟩

theorem UnitElement.document_injective : Function.Injective UnitElement.document := by
  intro u v h
  simp only [UnitElement.document, object.injEq, List.cons.injEq, Prod.mk.injEq, string.injEq,
    array.injEq, true_and, and_true] at h
  obtain ⟨name, -, comments, types⟩ := h
  cases u
  cases v
  rw [UnitElement.mk.injEq]
  exact ⟨ElementName.ext_text name, CommentCounts.document_injective comments,
    List.map_injective_iff.2 TypeElement.eq_of_document_eq types⟩

theorem PackageElement.document_injective : Function.Injective PackageElement.document := by
  intro p q h
  simp only [PackageElement.document, object.injEq, List.cons.injEq, Prod.mk.injEq, string.injEq,
    array.injEq, true_and, and_true] at h
  obtain ⟨name, -, comments, units⟩ := h
  cases p
  cases q
  rw [PackageElement.mk.injEq]
  exact ⟨name, CommentCounts.document_injective comments,
    List.map_injective_iff.2 UnitElement.document_injective units⟩

theorem ModuleElement.document_injective : Function.Injective ModuleElement.document := by
  intro m n h
  simp only [ModuleElement.document, object.injEq, List.cons.injEq, Prod.mk.injEq, string.injEq,
    bool.injEq, int.injEq, true_and, and_true] at h
  obtain ⟨name, isOpen, required, exported, provided, used, opened, comments⟩ := h
  cases m
  cases n
  rw [ModuleElement.mk.injEq]
  exact ⟨ElementName.ext_text name, isOpen, required, exported, provided, used, opened,
    CommentCounts.document_injective comments⟩

theorem ModularUnitElement.document_injective :
    Function.Injective ModularUnitElement.document := by
  intro u v h
  simp only [ModularUnitElement.document, object.injEq, List.cons.injEq, Prod.mk.injEq,
    string.injEq, true_and, and_true] at h
  obtain ⟨name, comments, module⟩ := h
  cases u
  cases v
  rw [ModularUnitElement.mk.injEq]
  exact ⟨ElementName.ext_text name, CommentCounts.document_injective comments,
    ModuleElement.document_injective module⟩

theorem Census.eq_of_document_eq {c d : Census} {m n : Metadata}
    (h : c.document m = d.document n) : c = d := by
  simp only [Census.document, object.injEq, List.cons.injEq, Prod.mk.injEq, array.injEq, true_and,
    and_true] at h
  obtain ⟨-, -, -, -, modularUnits, packages⟩ := h
  cases c
  cases d
  rw [Census.mk.injEq]
  exact ⟨List.map_injective_iff.2 PackageElement.document_injective packages,
    List.map_injective_iff.2 ModularUnitElement.document_injective modularUnits⟩

/-- The document of a census determines it, whatever the metadata say. It has a summary of the
whole, one of each package, unit, type and method, and each of them holds the fifteen numbers that
one gets by recounting from the document. -/
theorem Census.document_faithful (c : Census) (m : Metadata) :
    (∀ d n, c.document m = d.document n → c = d) ∧
    (∃ s, (c.document m).member? "summary" = some s ∧ s.Tells (c.document m).recount) ∧
    ∀ o ∈ (c.document m).walk,
      (∀ s, o.member? "summary" = some s → s.Tells o.recount) ∧
      ∀ key ∈ summarized, ∀ e ∈ o.listOf key, ∃ s, e.member? "summary" = some s := by
  refine ⟨fun d n h => Census.eq_of_document_eq h, ⟨c.total.document, rfl, ?_⟩, fun o ho => ?_⟩
  · rw [c.recount_document m]
    exact c.total.tells_document
  · exact ⟨(c.consistent_document m o ho).summary, (c.consistent_document m o ho).elements⟩

example : (MetricsPart.nestedCensus.document ⟨none, none⟩).recount =
    ⟨1, 1, 1, 4, 1, 1, 6, ⟨5, 21, 1, 1, 2, 1, 3, 20⟩⟩ := by
  rfl

end JavaCensus
