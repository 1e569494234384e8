import JavaCensus.Proofs.Claims
import JavaCensus.Proofs.Declarations
import JavaCensus.Proofs.Schedule

/-!
# What a schedule delivers

Collecting a declaration makes the steps that its schedule lists, no others, and an element holds
only what one of the steps made for it has offered. One relation says so of code and of
declarations alike, with a rule for each way in which collecting puts them together.
-/
namespace JavaCensus

open Attribution

/-! ## Elements that know their places -/

structure Stamp where
  place : Place
  comments : List Comment

def Stamp.origin (s : Stamp) : Origin := ⟨s.place, []⟩

/-- Parts of a type whose elements know where they come from. -/
structure StampedParts where
  fields : List (FieldElement Stamp)
  methods : List (MethodElement Stamp)
  types : List (TypeElement Stamp)

namespace StampedParts

def append (a b : StampedParts) : StampedParts :=
  ⟨a.fields ++ b.fields, a.methods ++ b.methods, a.types ++ b.types⟩

/-- The parts as they are collected. -/
def plain (p : StampedParts) : MemberParts :=
  ⟨p.fields.map (·.map Stamp.comments), p.methods.map (·.map Stamp.comments),
    p.types.map (·.map Stamp.comments)⟩

def elements (p : StampedParts) : List (Element Stamp) :=
  p.fields.map .field ++ p.methods.flatMap (·.elements) ++ p.types.flatMap (·.elements)

/-- The declarations that the elements come from. -/
def rows (p : StampedParts) (h : Holder) : List Row :=
  p.fields.map (fun f => (f.map Stamp.origin).row h) ++
    p.methods.flatMap (fun m => (m.map Stamp.origin).rows h) ++
    p.types.flatMap (fun t => (t.map Stamp.origin).rows h)

theorem plain_append (a b : StampedParts) : (a.append b).plain = a.plain.append b.plain := by
  simp [append, plain, MemberParts.append]

theorem mem_elements_append {a b : StampedParts} {e : Element Stamp} :
    e ∈ (a.append b).elements ↔ e ∈ a.elements ∨ e ∈ b.elements := by
  simp only [append, elements, List.map_append, List.flatMap_append, List.mem_append]
  tauto

theorem rows_append (a b : StampedParts) (h : Holder) :
    ((a.append b).rows h).Perm (a.rows h ++ b.rows h) := by
  classical
  rw [List.perm_iff_count]
  intro row
  simp only [append, rows, List.map_append, List.flatMap_append, List.count_append]
  omega

/-! ### Putting elements together -/

variable (p : StampedParts) (place : Place) (held : List Comment) (h : Holder)

def ofType (name : ElementName) (kind : TypeKind) : StampedParts :=
  ⟨[], [], [.mk name kind ⟨place, held⟩ p.fields p.methods p.types]⟩

def ofMethod (name : ElementName) (kind : MethodKind) (statements : Int) : StampedParts :=
  ⟨[], [.mk name kind statements ⟨place, held⟩ p.types], []⟩

/-- A field beside the parts. -/
def withField (name : ElementName) (kind : FieldKind) (statements : Int) : StampedParts :=
  ⟨⟨name, kind, statements, ⟨place, held⟩⟩ :: p.fields, p.methods, p.types⟩

theorem rows_ofType (name : ElementName) (kind : TypeKind) :
    (p.ofType place held name kind).rows h =
      .declaration place h (.type (.ok name.text) (.ok kind)) :: p.rows (.type place) := by
  rw [rows, ofType, List.flatMap_singleton, TypeElement.rows_eq]
  simp only [TypeElement.map, MethodElement.mapAll_eq, TypeElement.mapAll_eq,
    TypeElement.fields, TypeElement.methods, TypeElement.innerTypes, List.map_map,
    List.flatMap_map]
  rfl

theorem rows_ofMethod (name : ElementName) (kind : MethodKind) (statements : Int) :
    (p.ofMethod place held name kind statements).rows h =
      .declaration place h (.method (.ok name.text) (.ok kind)) ::
        rows ⟨[], [], p.types⟩ (.method place) := by
  rw [rows, ofMethod, List.flatMap_singleton, MethodElement.rows_eq]
  simp only [MethodElement.map, TypeElement.mapAll_eq, MethodElement.localTypes,
    List.flatMap_map, List.map_nil, List.flatMap_nil, List.nil_append, List.append_nil]
  rfl

theorem rows_withField (name : ElementName) (kind : FieldKind) (statements : Int) :
    (p.withField place held name kind statements).rows h =
      .declaration place h (.field (.ok name.text) (.ok kind) (.ok statements)) :: p.rows h :=
  rfl

theorem elements_ofType (name : ElementName) (kind : TypeKind) :
    (p.ofType place held name kind).elements =
      .type (.mk name kind ⟨place, held⟩ p.fields p.methods p.types) :: p.elements := by
  rw [elements, ofType, List.flatMap_singleton, TypeElement.elements_eq]
  rfl

theorem elements_ofMethod (name : ElementName) (kind : MethodKind) (statements : Int) :
    (p.ofMethod place held name kind statements).elements =
      .method (.mk name kind statements ⟨place, held⟩ p.types) ::
        elements ⟨[], [], p.types⟩ := by
  rw [elements, ofMethod, List.flatMap_singleton, MethodElement.elements_eq, List.map_nil,
    List.flatMap_nil, List.append_nil]
  rfl

end StampedParts

/-! ## Deliveries -/

/-- What has been claimed for whoever is responsible around, and the parts that have been made. -/
structure Delivery where
  comments : List Comment
  parts : MemberParts

namespace Delivery

def append (a b : Delivery) : Delivery :=
  ⟨a.comments ++ b.comments, a.parts.append b.parts⟩

def gather (ds : List Delivery) : Delivery :=
  ⟨ds.flatMap (·.comments), MemberParts.gather (ds.map (·.parts))⟩

end Delivery

/-- The steps are those that were made, and they offer what is delivered: to the recipient the
comments, to each element what it holds. The elements come from the declarations among the rows. -/
structure Delivers (r : Recipient) (h : Holder) (l : Ledger) (steps : List ClaimStep)
    (rows : List Row) (d : Delivery) (m : Ledger) : Prop where
  ledger : m = l.after steps
  comments : ∀ c ∈ d.comments, l.Offers steps r c
  parts : ∃ stamped : StampedParts, stamped.plain = d.parts ∧
    (stamped.rows h).Perm (rows.filter (·.isDeclaration)) ∧
    ∀ e ∈ stamped.elements, ∀ c ∈ e.comments.comments,
      l.Offers steps (.element e.comments.place) c

namespace Delivers

variable {r : Recipient} {h : Holder} {l k m : Ledger} {steps more : List ClaimStep}
  {rows others : List Row} {a b d : Delivery}

theorem nil (r : Recipient) (h : Holder) (l : Ledger) :
    Delivers r h l [] [] ⟨[], .empty⟩ l where
  ledger := rfl
  comments := List.forall_mem_nil _
  parts := ⟨⟨[], [], []⟩, rfl, .refl _, List.forall_mem_nil _⟩

theorem append (first : Delivers r h l steps rows a k) (second : Delivers r h k more others b m) :
    Delivers r h l (steps ++ more) (rows ++ others) (a.append b) m := by
  obtain ⟨rfl, comments, stamped, plain, perm, elements⟩ := first
  obtain ⟨rfl, comments', stamped', plain', perm', elements'⟩ := second
  refine ⟨(l.after_append steps more).symm, fun c hc => ?_, stamped.append stamped', ?_, ?_,
    fun e he c hc => ?_⟩
  · rcases List.mem_append.1 hc with hc | hc
    · exact (comments c hc).append_right more
    · exact (comments' c hc).append_left
  · rw [StampedParts.plain_append, plain, plain']
    rfl
  · rw [List.filter_append]
    exact (stamped.rows_append stamped' h).trans (perm.append perm')
  · rcases StampedParts.mem_elements_append.1 he with he | he
    · exact (elements e he c hc).append_right more
    · exact (elements' e he c hc).append_left

theorem perm (delivers : Delivers r h l steps rows d m) (p : rows.Perm others) :
    Delivers r h l steps others d m := by
  obtain ⟨ledger, comments, stamped, plain, perm, elements⟩ := delivers
  exact ⟨ledger, comments, stamped, plain, perm.trans (p.filter _), elements⟩

theorem of_each {α β : Type} {f : α → Attribution β} (deliveryOf : β → Delivery)
    {stepsOf : α → List ClaimStep} {rowsOf : α → List Row} {xs : List α} {ys : List β}
    (step : ∀ x ∈ xs, ∀ l y m, (f x).Returns l y m →
      Delivers r h l (stepsOf x) (rowsOf x) (deliveryOf y) m)
    (hys : (each xs fun a _ => f a).Returns l ys m) :
    Delivers r h l (xs.flatMap stepsOf) (xs.flatMap rowsOf)
      (Delivery.gather (ys.map deliveryOf)) m := by
  induction xs generalizing l ys with
  | nil =>
    obtain ⟨rfl, rfl⟩ := returns_each_nil.1 hys
    exact .nil r h l
  | cons x xs ih =>
    obtain ⟨y, k, rest, hy, hrest, rfl⟩ := returns_each_cons.1 hys
    exact (step x (List.mem_cons_self ..) l y k hy).append
      (ih (fun z hz => step z (List.mem_cons_of_mem _ hz)) hrest)

/-- What a step claims is delivered to the recipient that it is made for. -/
theorem of_claim {s : ClaimStep} {cs : List Comment} (recipient : s.occurrence.recipient = r)
    (claimed : (claim (s.offered l)).Returns l cs m) : Delivers r h l [s] [] ⟨cs, .empty⟩ m := by
  obtain ⟨rfl, rfl⟩ := returns_claim.1 claimed
  exact ⟨rfl, fun c hc => .single recipient (l.fresh_subset _ hc), ⟨[], [], []⟩, rfl, .refl _,
    List.forall_mem_nil _⟩

/-- A declaration claims what is adjacent to it before its parts, and its own comments after. -/
theorem around {o : Occurrence} {above own : List Comment} {l₁ l₂ : Ledger}
    (recipient : o.recipient = r) (habove : (claimAdjacent o.node o.parent).Returns l above l₁)
    (inner : Delivers r h l₁ steps rows d l₂) (hown : (claimOwn o.node).Returns l₂ own m) :
    Delivers r h l ([ClaimStep.adjacent o] ++ steps ++ [ClaimStep.own o]) rows
      ⟨above ++ d.comments ++ own, d.parts⟩ m := by
  have first : Delivers r h l [.adjacent o] [] ⟨above, .empty⟩ l₁ := .of_claim recipient habove
  have last : Delivers r h l₂ [.own o] [] ⟨own, .empty⟩ m := .of_claim recipient hown
  have all := (first.append inner).append last
  simpa only [Delivery.append, MemberParts.append, MemberParts.empty, List.nil_append,
    List.append_nil] using all

variable {place : Place}

theorem ofType (name : ElementName) (kind : TypeKind)
    (delivers : Delivers (.element place) (.type place) l steps rows d m) (r : Recipient)
    (h : Holder) :
    Delivers r h l steps (.declaration place h (.type (.ok name.text) (.ok kind)) :: rows)
      ⟨[], .ofTypes [.mk name kind d.comments d.parts.fields d.parts.methods
        d.parts.innerTypes]⟩ m := by
  obtain ⟨ledger, comments, stamped, plain, perm, elements⟩ := delivers
  refine ⟨ledger, List.forall_mem_nil _, stamped.ofType place d.comments name kind, ?_, ?_,
    fun e he c hc => ?_⟩
  · simp only [← plain, StampedParts.plain, StampedParts.ofType, MemberParts.ofTypes,
      List.map_cons, List.map_nil, TypeElement.map, MethodElement.mapAll_eq,
      TypeElement.mapAll_eq]
  · rw [StampedParts.rows_ofType]
    exact perm.cons _
  · rw [StampedParts.elements_ofType, List.mem_cons] at he
    rcases he with rfl | he
    · exact comments c hc
    · exact elements e he c hc

theorem ofMethod {name : ElementName} {kind : MethodKind} {types : List TypeOf}
    {cs : List Comment} (statements : Int)
    (delivers : Delivers (.element place) (.method place) l steps rows ⟨cs, .ofTypes types⟩ m)
    (r : Recipient) (h : Holder) :
    Delivers r h l steps (.declaration place h (.method (.ok name.text) (.ok kind)) :: rows)
      ⟨[], ⟨[], [.mk name kind statements cs types], []⟩⟩ m := by
  obtain ⟨ledger, comments, ⟨fields, methods, stamped⟩, plain, perm, elements⟩ := delivers
  simp only [StampedParts.plain, MemberParts.ofTypes, MemberParts.mk.injEq,
    List.map_eq_nil_iff] at plain
  obtain ⟨rfl, rfl, rfl⟩ := plain
  refine ⟨ledger, List.forall_mem_nil _,
    StampedParts.ofMethod ⟨[], [], stamped⟩ place cs name kind statements, ?_, ?_,
    fun e he c hc => ?_⟩
  · simp only [StampedParts.plain, StampedParts.ofMethod, List.map_cons, List.map_nil,
      MethodElement.map, TypeElement.mapAll_eq]
  · rw [StampedParts.rows_ofMethod]
    exact perm.cons _
  · rw [StampedParts.elements_ofMethod, List.mem_cons] at he
    rcases he with rfl | he
    · exact comments c hc
    · exact elements e he c hc

/-- A field holds what has been delivered to it; all else stays beside it. -/
theorem withField (name : ElementName) (kind : FieldKind) (statements : Int)
    (delivers : Delivers (.element place) h l steps rows d m) (r : Recipient) :
    Delivers r h l steps
      (.declaration place h (.field (.ok name.text) (.ok kind) (.ok statements)) :: rows)
      ⟨[], ⟨⟨name, kind, statements, d.comments⟩ :: d.parts.fields, d.parts.methods,
        d.parts.innerTypes⟩⟩ m := by
  obtain ⟨ledger, comments, stamped, plain, perm, elements⟩ := delivers
  refine ⟨ledger, List.forall_mem_nil _, stamped.withField place d.comments name kind statements,
    ?_, ?_, fun e he c hc => ?_⟩
  · rw [← plain]
    rfl
  · rw [StampedParts.rows_withField]
    exact perm.cons _
  · simp only [StampedParts.withField, StampedParts.elements, List.map_cons,
      List.cons_append, List.mem_cons] at he
    rcases he with rfl | he
    · exact comments c hc
    · exact elements e he c hc

end Delivers

end JavaCensus
