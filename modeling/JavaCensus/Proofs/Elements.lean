import JavaCensus.Collect.Collector
import Mathlib

/-!
# The elements of a metrics tree

A type is unfolded into the list of its elements: itself, its fields, its methods and all that is
declared in them. Totals are sums over that list, so they can be told from what each element holds.
-/
namespace JavaCensus

instance : AddCommMonoid CommentCounts where
  add_assoc := CommentCounts.add_assoc
  zero_add := CommentCounts.zero_add
  add_zero := CommentCounts.add_zero
  add_comm := CommentCounts.add_comm
  nsmul := nsmulRec

instance : AddCommMonoid Totals where
  add_assoc := Totals.add_assoc
  zero_add := Totals.zero_add
  add_zero a := by rw [Totals.add_comm, Totals.zero_add]
  add_comm := Totals.add_comm
  nsmul := nsmulRec

/-- What a comment of the kind contributes that covers some lines and has content of some length.
The lines of line comments are not counted. -/
def CommentKind.contribution (lines length : Int) : CommentKind → CommentCounts
  | .line => ⟨1, length, 0, 0, 0, 0, 0, 0⟩
  | .block => ⟨0, 0, 1, lines, length, 0, 0, 0⟩
  | .doc => ⟨0, 0, 0, 0, 0, 1, lines, length⟩

/-- What a comment contributes. It covers the lines from that of its start to that of its stop. -/
def Comment.contribution (c : Comment) : CommentCounts :=
  c.kind.contribution (c.span.stop.line - c.span.start.line + 1) c.contentLength

namespace CommentCounts

theorem ofComment_eq (c : Comment) : ofComment c = c.contribution := by
  rw [ofComment, Comment.contribution]
  cases c.kind <;> rfl

theorem ofComments_eq_sum (cs : List Comment) :
    ofComments cs = (cs.map (·.contribution)).sum :=
  congrArg List.sum (List.map_congr_left fun c _ => ofComment_eq c)

theorem ofComments_flatten (buckets : List (List Comment)) :
    ofComments buckets.flatten = (buckets.map ofComments).sum := by
  induction buckets with
  | nil => rfl
  | cons b buckets ih => rw [List.flatten_cons, ofComments_append, ih, List.map_cons, List.sum_cons]

theorem ofComments_perm {cs ds : List Comment} (h : cs.Perm ds) :
    ofComments cs = ofComments ds := by
  rw [ofComments_eq_sum, ofComments_eq_sum]
  exact (h.map _).sum_eq

end CommentCounts

namespace Totals

theorem sum_eq (ts : List Totals) : Totals.sum ts = ts.sum := by
  rw [Totals.sum, List.sum_eq_foldl]

theorem comments_add (a b : Totals) : (a + b).comments = a.comments + b.comments :=
  rfl

theorem comments_sum (ts : List Totals) : ts.sum.comments = (ts.map (·.comments)).sum := by
  induction ts with
  | nil => rfl
  | cons t ts ih => rw [List.sum_cons, comments_add, ih, List.map_cons, List.sum_cons]

theorem statements_add (a b : Totals) : (a + b).statements = a.statements + b.statements :=
  rfl

theorem statements_sum (ts : List Totals) : ts.sum.statements = (ts.map (·.statements)).sum := by
  induction ts with
  | nil => rfl
  | cons t ts ih => rw [List.sum_cons, statements_add, ih, List.map_cons, List.sum_cons]

end Totals

/-! ## Elements -/

/-- An element within a type, or the type. -/
inductive Element (β : Type) where
  | type (t : TypeElement β)
  | method (m : MethodElement β)
  | field (f : FieldElement β)

namespace Element

variable {β γ : Type}

def comments : Element β → β
  | type t => t.comments
  | method m => m.comments
  | field f => f.comments

/-- A type has no statements of its own. -/
def statements : Element β → Int
  | type _ => 0
  | method m => m.statements
  | field f => f.statements

def map (f : β → γ) : Element β → Element γ
  | type t => type (t.map f)
  | method m => method (m.map f)
  | field e => field (e.map f)

/-- The count that an element makes at its own level. -/
def level : Element β → Totals
  | type _ => .oneType
  | method _ => .oneMethod
  | field _ => .oneField

end Element

mutual

def TypeElement.elements {β : Type} : TypeElement β → List (Element β)
  | .mk name kind comments fields methods innerTypes =>
    .type (.mk name kind comments fields methods innerTypes) :: fields.map .field ++
      MethodElement.allElements methods ++ TypeElement.allElements innerTypes

def TypeElement.allElements {β : Type} : List (TypeElement β) → List (Element β)
  | [] => []
  | t :: ts => t.elements ++ TypeElement.allElements ts

def MethodElement.elements {β : Type} : MethodElement β → List (Element β)
  | .mk name kind statements comments localTypes =>
    .method (.mk name kind statements comments localTypes) :: TypeElement.allElements localTypes

def MethodElement.allElements {β : Type} : List (MethodElement β) → List (Element β)
  | [] => []
  | m :: ms => m.elements ++ MethodElement.allElements ms

end

section Elements

variable {β γ : Type}

/-- What holds of a type or method once it holds of all that is declared in it. -/
theorem TypeElement.induction {P : TypeElement β → Prop} {Q : MethodElement β → Prop}
    (type : ∀ t : TypeElement β, (∀ m ∈ t.methods, Q m) → (∀ s ∈ t.innerTypes, P s) → P t)
    (method : ∀ m : MethodElement β, (∀ t ∈ m.localTypes, P t) → Q m) (t : TypeElement β) : P t :=
  @TypeElement.rec β P Q (fun ms => ∀ m ∈ ms, Q m) (fun ts => ∀ t ∈ ts, P t)
    (fun _ _ _ _ _ _ methods innerTypes => type _ methods innerTypes)
    (fun _ _ _ _ _ localTypes => method _ localTypes)
    (List.forall_mem_nil _) (fun _ _ m ms => List.forall_mem_cons.2 ⟨m, ms⟩)
    (List.forall_mem_nil _) (fun _ _ t ts => List.forall_mem_cons.2 ⟨t, ts⟩) t

theorem TypeElement.allElements_eq (ts : List (TypeElement β)) :
    TypeElement.allElements ts = ts.flatMap (·.elements) := by
  induction ts with
  | nil => rfl
  | cons t ts ih => rw [TypeElement.allElements, ih, List.flatMap_cons]

theorem MethodElement.allElements_eq (ms : List (MethodElement β)) :
    MethodElement.allElements ms = ms.flatMap (·.elements) := by
  induction ms with
  | nil => rfl
  | cons m ms ih => rw [MethodElement.allElements, ih, List.flatMap_cons]

theorem TypeElement.elements_eq (t : TypeElement β) :
    t.elements = .type t :: t.fields.map .field ++ t.methods.flatMap (·.elements) ++
      t.innerTypes.flatMap (·.elements) := by
  cases t
  rw [TypeElement.elements, MethodElement.allElements_eq, TypeElement.allElements_eq]
  rfl

theorem MethodElement.elements_eq (m : MethodElement β) :
    m.elements = .method m :: m.localTypes.flatMap (·.elements) := by
  cases m
  rw [MethodElement.elements, TypeElement.allElements_eq]
  rfl

mutual

theorem TypeElement.elements_map (f : β → γ) :
    (t : TypeElement β) → (t.map f).elements = t.elements.map (·.map f)
  | .mk name kind comments fields methods innerTypes => by
    simp only [TypeElement.map, TypeElement.elements, List.map_cons, List.map_append,
      MethodElement.allElements_map f methods, TypeElement.allElements_map f innerTypes,
      List.map_map]
    rfl

theorem TypeElement.allElements_map (f : β → γ) : (ts : List (TypeElement β)) →
    TypeElement.allElements (TypeElement.mapAll f ts) = (TypeElement.allElements ts).map (·.map f)
  | [] => rfl
  | t :: ts => by
    simp only [TypeElement.mapAll, TypeElement.allElements, List.map_append,
      TypeElement.elements_map f t, TypeElement.allElements_map f ts]

theorem MethodElement.elements_map (f : β → γ) :
    (m : MethodElement β) → (m.map f).elements = m.elements.map (·.map f)
  | .mk name kind statements comments localTypes => by
    simp only [MethodElement.map, MethodElement.elements, List.map_cons,
      TypeElement.allElements_map f localTypes]
    rfl

theorem MethodElement.allElements_map (f : β → γ) : (ms : List (MethodElement β)) →
    MethodElement.allElements (MethodElement.mapAll f ms) =
      (MethodElement.allElements ms).map (·.map f)
  | [] => rfl
  | m :: ms => by
    simp only [MethodElement.mapAll, MethodElement.allElements, List.map_append,
      MethodElement.elements_map f m, MethodElement.allElements_map f ms]

end

end Elements

/-- What an element adds to a total, the elements below it left out. -/
def Element.share (e : Element CommentCounts) : Totals :=
  e.level + .ofComments e.comments + .ofStatements e.statements

namespace Element

theorem share_type (t : TypeElement CommentCounts) :
    (type t).share = .oneType + .ofComments t.comments := by
  have none : Totals.ofStatements 0 = 0 := rfl
  simp only [share, statements, none, add_zero]
  rfl

theorem share_method (m : MethodElement CommentCounts) :
    (method m).share = .oneMethod + (.ofComments m.comments + .ofStatements m.statements) := by
  simp only [share, add_assoc]
  rfl

theorem share_field (f : FieldElement CommentCounts) : (field f).share = f.total := by
  simp only [share, FieldElement.total, FieldElement.content, add_assoc]
  rfl

end Element

mutual

theorem TypeElement.total_eq_sum :
    (t : TypeElement CommentCounts) → t.total = (t.elements.map (·.share)).sum
  | .mk name kind comments fields methods innerTypes => by
    simp only [TypeElement.total, TypeElement.content, TypeElement.elements, Totals.sum_eq,
      MethodElement.totals_eq_sum methods, TypeElement.totals_eq_sum innerTypes, List.map_cons,
      List.map_append, List.map_map, List.cons_append, List.sum_cons, List.sum_append,
      Element.share_type, Function.comp_def, Element.share_field, TypeElement.comments, add_assoc]

theorem TypeElement.totals_eq_sum : (ts : List (TypeElement CommentCounts)) →
    (TypeElement.totals ts).sum = ((TypeElement.allElements ts).map (·.share)).sum
  | [] => rfl
  | t :: ts => by
    have ht := TypeElement.total_eq_sum t
    rw [TypeElement.total] at ht
    simp only [TypeElement.totals, TypeElement.allElements, List.sum_cons, List.map_append,
      List.sum_append, ht, TypeElement.totals_eq_sum ts]

theorem MethodElement.total_eq_sum :
    (m : MethodElement CommentCounts) → m.total = (m.elements.map (·.share)).sum
  | .mk name kind statements comments localTypes => by
    simp only [MethodElement.total, MethodElement.content, MethodElement.elements, Totals.sum_eq,
      TypeElement.totals_eq_sum localTypes, List.map_cons, List.sum_cons, Element.share_method,
      MethodElement.comments, MethodElement.statements, add_assoc]

theorem MethodElement.totals_eq_sum : (ms : List (MethodElement CommentCounts)) →
    (MethodElement.totals ms).sum = ((MethodElement.allElements ms).map (·.share)).sum
  | [] => rfl
  | m :: ms => by
    have hm := MethodElement.total_eq_sum m
    rw [MethodElement.total] at hm
    simp only [MethodElement.totals, MethodElement.allElements, List.sum_cons, List.map_append,
      List.sum_append, hm, MethodElement.totals_eq_sum ms]

end

theorem Element.comments_share (e : Element CommentCounts) : e.share.comments = e.comments := by
  have level : e.level.comments = 0 := by cases e <;> rfl
  show e.level.comments + e.comments + 0 = e.comments
  rw [level, zero_add, add_zero]

theorem Element.statements_share (e : Element CommentCounts) :
    e.share.statements = e.statements := by
  have level : e.level.statements = 0 := by cases e <;> rfl
  show e.level.statements + 0 + e.statements = e.statements
  rw [level, zero_add, zero_add]

/-! ## Units and the census -/

/-- All that a collected unit holds comments in: its package, the unit and every element. -/
def CollectedUnit.buckets {β : Type} : CollectedUnit β → List β
  | .ordinary u =>
    u.packageComments :: u.unit.comments ::
      (u.unit.types.flatMap (·.elements)).map (·.comments)
  | .modular u => [u.comments, u.module.comments]

theorem Element.comments_map {β γ : Type} (f : β → γ) (e : Element β) :
    (e.map f).comments = f e.comments := by
  cases e with
  | type t =>
    cases t
    rfl
  | method m =>
    cases m
    rfl
  | field _ => rfl

theorem Element.statements_map {β γ : Type} (f : β → γ) (e : Element β) :
    (e.map f).statements = e.statements := by
  cases e with
  | type t => rfl
  | method m =>
    cases m
    rfl
  | field _ => rfl

/-- What elements count does not depend on what they hold of comments. -/
theorem TypeElement.statements_map {β γ : Type} (f : β → γ) (ts : List (TypeElement β)) :
    ((ts.map (·.map f)).flatMap (·.elements)).map (·.statements) =
      (ts.flatMap (·.elements)).map (·.statements) := by
  simp only [List.flatMap_map, TypeElement.elements_map, List.map_flatMap, List.map_map,
    Function.comp_def, Element.statements_map]

theorem CollectedUnit.buckets_map {β γ : Type} (f : β → γ) (u : CollectedUnit β) :
    (u.map f).buckets = u.buckets.map f := by
  cases u with
  | ordinary u =>
    simp only [CollectedUnit.map, buckets, UnitElement.map, List.map_cons, List.flatMap_map,
      TypeElement.elements_map, List.map_flatMap, List.map_map, Function.comp_def,
      Element.comments_map]
  | modular u => rfl

theorem UnitElement.total_eq_sum (u : UnitElement CommentCounts) : u.total =
    .oneUnit + (.ofComments u.comments + ((u.types.flatMap (·.elements)).map (·.share)).sum) := by
  have types (ts : List (TypeElement CommentCounts)) :
      (ts.map (·.total)).sum = ((ts.flatMap (·.elements)).map (·.share)).sum := by
    induction ts with
    | nil => rfl
    | cons t ts ih =>
      rw [List.map_cons, List.sum_cons, ih, TypeElement.total_eq_sum, List.flatMap_cons,
        List.map_append, List.sum_append]
  rw [UnitElement.total, UnitElement.content, Totals.sum_eq, types]

theorem UnitElement.comments_total (u : UnitElement CommentCounts) :
    u.total.comments =
      u.comments + ((u.types.flatMap (·.elements)).map (·.comments)).sum := by
  rw [UnitElement.total_eq_sum, Totals.comments_add, Totals.comments_add, Totals.comments_sum,
    List.map_map]
  simp only [Function.comp_def, Element.comments_share]
  exact zero_add _

theorem UnitElement.statements_total (u : UnitElement CommentCounts) :
    u.total.statements = ((u.types.flatMap (·.elements)).map (·.statements)).sum := by
  rw [UnitElement.total_eq_sum, Totals.statements_add, Totals.statements_add,
    Totals.statements_sum, List.map_map]
  simp only [Function.comp_def, Element.statements_share]
  exact (zero_add _).trans (zero_add _)

theorem PackageElement.content_extend (p : Package) (comments : CommentCounts)
    (units : List (UnitElement CommentCounts)) :
    (⟨p.name, p.comments + comments, p.units ++ units⟩ : Package).content =
      p.content + (.ofComments comments + (units.map (·.total)).sum) := by
  have split : Totals.ofComments (p.comments + comments) =
      .ofComments p.comments + .ofComments comments := rfl
  simp only [PackageElement.content, Totals.sum_eq, List.map_append, List.sum_append, split]
  exact add_add_add_comm _ _ _ _

theorem content_updatePackage {name : String} {f : Package → Package} {d : Totals}
    (hf : ∀ p, (f p).content = p.content + d) (ps : List Package) :
    ((updatePackage name f ps).map (·.content)).sum = (ps.map (·.content)).sum + d := by
  induction ps with
  | nil =>
    have new : (⟨name, 0, []⟩ : Package).content = 0 := rfl
    simp [updatePackage, hf, new]
  | cons p ps ih =>
    rw [updatePackage]
    split
    · rw [List.map_cons, List.map_cons, List.sum_cons, List.sum_cons, hf, add_right_comm]
    · rw [List.map_cons, List.map_cons, List.sum_cons, List.sum_cons, ih, add_assoc]

/-- The count of a package is no count of comments. -/
theorem Census.comments_total (c : Census) : c.total.comments =
    (c.modularUnits.map ModularUnitElement.total).sum.comments +
      (c.packages.map PackageElement.content).sum.comments := by
  have packages (ps : List Package) :
      (ps.map PackageElement.total).sum.comments =
        (ps.map PackageElement.content).sum.comments := by
    induction ps with
    | nil => rfl
    | cons p ps ih =>
      have own : p.total.comments = p.content.comments := zero_add p.content.comments
      rw [List.map_cons, List.map_cons, List.sum_cons, List.sum_cons, Totals.comments_add,
        Totals.comments_add, ih, own]
  rw [Census.total, Census.content, zero_add, Totals.sum_eq, List.sum_append, Totals.comments_add,
    packages]

/-- A unit adds the comments of its buckets, each once. -/
theorem Census.comments_total_addUnit (c : Census) (u : CollectedUnit CommentCounts) :
    (c.addUnit u).total.comments = c.total.comments + u.buckets.sum := by
  rw [Census.comments_total, Census.comments_total]
  cases u with
  | ordinary u =>
    simp only [Census.addUnit, Census.extendPackage]
    rw [content_updatePackage fun p => PackageElement.content_extend p u.packageComments [u.unit],
      Totals.comments_add, Totals.comments_add, List.map_cons, List.map_nil, List.sum_singleton,
      UnitElement.comments_total, ← add_assoc]
    rfl
  | modular u =>
    have unit : u.total.comments = u.comments + u.module.comments := by
      have module : u.module.total.comments = u.module.comments := zero_add _
      rw [ModularUnitElement.total, ModularUnitElement.content, Totals.comments_add,
        Totals.comments_add, module]
      exact zero_add _
    simp only [Census.addUnit, Census.addModularUnits, List.map_append, List.sum_append,
      List.map_cons, List.map_nil, Totals.comments_add, unit,
      CollectedUnit.buckets, List.sum_cons, List.sum_nil, add_zero]
    rw [add_right_comm]

end JavaCensus
