import JavaCensus.Proofs.Documents
import JavaCensus.Report.Tree

/-!
# The document and the element report agree

The two reports are written independently, and the element report leaves out what is zero or empty.
They tell the same all the same: wherever one stands in the tree, names, flags and counters are
alike, and below stand the same elements in the same order.
-/
namespace JavaCensus

/-! ## Looking into the element report -/

/-- The lists of elements in a report. -/
inductive Listing where
  | modularUnits | packages | units | types | fields | methods | innerTypes | localTypes

namespace Listing

def all : List Listing :=
  [modularUnits, packages, units, types, fields, methods, innerTypes, localTypes]

theorem mem_all (l : Listing) : l ∈ all := by
  cases l <;> simp [all]

/-- The key of the list in a document. -/
def key : Listing → String
  | modularUnits => "modular_compilation_units"
  | packages => "packages"
  | units => "compilation_units"
  | types => "types"
  | fields => "fields"
  | methods => "methods"
  | innerTypes => "inner_types"
  | localTypes => "local_types"

/-- The tag of the sequence in an element report. -/
def tag : Listing → String
  | modularUnits => "modular-compilation-units"
  | packages => "packages"
  | units => "compilation-units"
  | types => "types"
  | fields => "fields"
  | methods => "methods"
  | innerTypes => "inner-types"
  | localTypes => "local-types"

/-- The tag of each element in the sequence. -/
def memberTag : Listing → String
  | modularUnits => "modular-compilation-unit"
  | packages => "package"
  | units => "compilation-unit"
  | types => "type"
  | fields => "field"
  | methods => "method"
  | innerTypes => "inner-type"
  | localTypes => "local-type"

end Listing

namespace Markup

def attribute? (m : Markup) (name : String) : Option String :=
  (m.attributes.find? (·.1 == name)).map (·.2)

def child? (m : Markup) (tag : String) : Option Markup :=
  m.children.find? (·.tag == tag)

/-- A child; one that is missing is like an empty one. -/
def child (m : Markup) (tag : String) : Markup :=
  (m.child? tag).getD ⟨tag, [], []⟩

/-- The number is the one that an attribute tells. An attribute that is missing tells of zero. -/
def Reads (m : Markup) (name : String) (n : Int) : Prop :=
  match m.attribute? name with
  | some text => text = toString n
  | none => n = 0

end Markup

/-! ## What agreement is -/

/-- Counters by their keys in a document and their names in an element report. -/
def commentCounters : List (String × String) :=
  [("line_comments", "line-comments"), ("line_comments_length", "line-comments-length"),
    ("block_comments", "block-comments"), ("block_comment_lines", "block-comments-lines"),
    ("block_comments_length", "block-comments-length"), ("doc_comments", "javadocs"),
    ("doc_comment_lines", "javadoc-lines"), ("doc_comments_length", "javadocs-length")]

def summaryCounters : List (String × String) :=
  [("modular_compilation_units", "modular-compilation-units"), ("packages", "packages"),
    ("compilation_units", "compilation-units"), ("types", "types"), ("methods", "methods"),
    ("fields", "fields"), ("statements", "statements")] ++ commentCounters

/-- The counters that an element has itself, of statements or of directives. -/
def elementCounters : List (String × String) :=
  ["statements", "requires", "exports", "provides", "uses", "opens"].map fun name => (name, name)

/-- The texts that an element has itself. -/
def elementTexts : List String :=
  ["date", "time", "version", "name", "kind"]

/-- All that an element may have in a document, in the order in which it is written. -/
def elementKeys : List String :=
  elementTexts ++ ["open"] ++ elementCounters.map (·.1) ++ ["summary", "comments", "module"] ++
    Listing.all.map (·.key)

def elementAttributes : List String :=
  elementTexts ++ ["open"] ++ elementCounters.map (·.2)

def elementTags : List String :=
  ["summary", "comments", "module"] ++ Listing.all.map (·.tag)

/-- Each counter of an object is told by an attribute. -/
def SameCounters (counters : List (String × String)) (o : Json) (m : Markup) : Prop :=
  ∀ c ∈ counters, m.Reads c.2 (o.member c.1).toInt

/-- An object and an element that hold these counters and nothing else. -/
structure SameTable (table : List (String × String)) (o : Json) (m : Markup) : Prop where
  counters : SameCounters table o m
  keys : (o.members.map (·.1)).Sublist (table.map (·.1))
  names : (m.attributes.map (·.1)).Sublist (table.map (·.2))
  leaf : m.children = []

/-- An object and an element have the same of their own, and nothing that is not compared. -/
structure SameOwn (o : Json) (m : Markup) : Prop where
  texts : ∀ name ∈ elementTexts, m.attribute? name = o.text? name
  flag : m.attribute? "open" =
    (o.member "open").bool?.map fun isOpen => if isOpen then "true" else "false"
  counters : SameCounters elementCounters o m
  summary : Option.Rel (SameTable summaryCounters) (o.member? "summary") (m.child? "summary")
  comments : SameTable commentCounters (o.member "comments") (m.child "comments")
  /-- A sequence tells how many elements it holds. -/
  sequences : ∀ l : Listing, ∀ s, m.child? l.tag = some s →
    s.attributes = [("count", toString s.children.length)] ∧
      ∀ e ∈ s.children, e.tag = l.memberTag
  keys : (o.members.map (·.1)).Sublist elementKeys
  names : (m.attributes.map (·.1)).Sublist elementAttributes
  tags : (m.children.map (·.tag)).Sublist elementTags

/-- An object of a document and an element of a report tell the same, and so do, one by one and in
the same order, all that are nested in them. -/
inductive Agrees : Json → Markup → Prop
  | intro {o : Json} {m : Markup} (own : SameOwn o m)
      (module : Option.Rel Agrees (o.member? "module") (m.child? "module"))
      (lists : ∀ l : Listing, List.Forall₂ Agrees (o.listOf l.key) (m.child l.tag).children) :
      Agrees o m

/-! ## Trees that the element report can tell -/

/-- No counter is negative, and what there is none of has neither lines nor length. -/
structure CommentCounts.Sound (c : CommentCounts) : Prop where
  lineComments : 0 ≤ c.lineComments
  lineCommentsLength : 0 ≤ c.lineCommentsLength
  blockComments : 0 ≤ c.blockComments
  blockCommentLines : 0 ≤ c.blockCommentLines
  blockCommentsLength : 0 ≤ c.blockCommentsLength
  docComments : 0 ≤ c.docComments
  docCommentLines : 0 ≤ c.docCommentLines
  docCommentsLength : 0 ≤ c.docCommentsLength
  noLines : c.lineComments = 0 → c.lineCommentsLength = 0
  noBlocks : c.blockComments = 0 → c.blockCommentLines = 0 ∧ c.blockCommentsLength = 0
  noDocs : c.docComments = 0 → c.docCommentLines = 0 ∧ c.docCommentsLength = 0

namespace CommentCounts

theorem sound_zero : Sound 0 := by
  constructor <;> decide

theorem Sound.add {a b : CommentCounts} (ha : a.Sound) (hb : b.Sound) : (a + b).Sound := by
  obtain ⟨a₁, a₂, a₃, a₄, a₅, a₆, a₇, a₈, a₉, a₁₀, a₁₁⟩ := ha
  obtain ⟨b₁, b₂, b₃, b₄, b₅, b₆, b₇, b₈, b₉, b₁₀, b₁₁⟩ := hb
  constructor <;> simp only [add_def] <;> omega

theorem Sound.sum {cs : List CommentCounts} (h : ∀ c ∈ cs, c.Sound) : cs.sum.Sound := by
  induction cs with
  | nil => exact sound_zero
  | cons c cs ih =>
    obtain ⟨first, rest⟩ := List.forall_mem_cons.1 h
    rw [List.sum_cons]
    exact first.add (ih rest)

theorem sound_ofComment {c : Comment} (h : c.span.startLine ≤ c.span.stopLine) :
    (ofComment c).Sound := by
  have lines : 0 < c.span.lineCount := by
    unfold Span.lineCount
    omega
  unfold ofComment
  cases c.kind <;> constructor <;> simp <;> omega

/-- Counts of comments that do not end before they begin are sound. -/
theorem sound_ofComments {cs : List Comment} (h : ∀ c ∈ cs, c.span.startLine ≤ c.span.stopLine) :
    (ofComments cs).Sound := by
  rw [ofComments_eq_sum]
  apply Sound.sum
  rw [List.forall_mem_map]
  intro c hc
  exact sound_ofComment (h c hc)

/-- Sound counts of no comments are all zero. -/
theorem Sound.eq_zero {c : CommentCounts} (h : c.Sound) (none : c.isEmpty = true) : c = 0 := by
  have none : c.comments = 0 := beq_iff_eq.1 none
  unfold comments at none
  obtain ⟨h₁, h₂, h₃, h₄, h₅, h₆, h₇, h₈, h₉, h₁₀, h₁₁⟩ := h
  cases c
  show _ = zero
  simp only [zero, mk.injEq] at *
  omega

end CommentCounts

/-! ## Positive counters as attributes -/

theorem find?_of_notMem {α : Type} {key : α → String} {xs : List α} {name : String}
    (absent : name ∉ xs.map key) : (xs.find? fun x => key x == name) = none := by
  rw [List.find?_eq_none]
  intro x hx same
  exact absent (List.mem_map.2 ⟨x, hx, beq_iff_eq.1 same⟩)

/-- Attributes for the positive ones among some counters. -/
def positives (counters : List (String × Int)) : List (String × String) :=
  counters.flatMap fun c => positive c.1 c.2

theorem names_positives (counters : List (String × Int)) :
    ((positives counters).map (·.1)).Sublist (counters.map (·.1)) := by
  induction counters with
  | nil => exact .slnil
  | cons c counters ih =>
    rw [positives, List.flatMap_cons, List.map_append, List.map_cons]
    unfold positive
    split
    · exact ih.cons_cons _
    · exact ih.cons _

/-- A counter by its name; one that is not there is zero. -/
def counterOf (counters : List (String × Int)) (name : String) : Int :=
  ((counters.find? (·.1 == name)).map (·.2)).getD 0

theorem counterOf_cons (c : String × Int) (counters : List (String × Int)) (name : String) :
    counterOf (c :: counters) name = if c.1 = name then c.2 else counterOf counters name := by
  rw [counterOf, List.find?_cons]
  by_cases same : c.1 = name
  · simp [same]
  · rw [if_neg same, beq_eq_false_iff_ne.2 same, counterOf]

theorem counterOf_of_notMem {counters : List (String × Int)} {name : String}
    (absent : name ∉ counters.map (·.1)) : counterOf counters name = 0 := by
  rw [counterOf, find?_of_notMem absent]
  rfl

theorem counterOf_nonneg {counters : List (String × Int)} (nonneg : ∀ c ∈ counters, 0 ≤ c.2)
    (name : String) : 0 ≤ counterOf counters name := by
  induction counters with
  | nil => exact le_rfl
  | cons c counters ih =>
    obtain ⟨first, nonneg⟩ := List.forall_mem_cons.1 nonneg
    rw [counterOf_cons]
    split
    · exact first
    · exact ih nonneg

theorem find?_positives {counters : List (String × Int)} (distinct : (counters.map (·.1)).Nodup)
    (name : String) :
    (positives counters).find? (·.1 == name) =
      if 0 < counterOf counters name then some (name, toString (counterOf counters name))
      else none := by
  induction counters with
  | nil => rfl
  | cons c counters ih =>
    obtain ⟨new, distinct⟩ := List.nodup_cons.1 distinct
    have split : positives (c :: counters) = positive c.1 c.2 ++ positives counters :=
      List.flatMap_cons
    rw [split, List.find?_append, ih distinct, counterOf_cons, positive]
    by_cases same : c.1 = name
    · subst same
      rw [counterOf_of_notMem new]
      by_cases h : 0 < c.2 <;> simp [h]
    · by_cases h : 0 < c.2 <;> simp [h, same]

namespace Markup

variable {m : Markup} {texts : List (String × String)} {counters : List (String × Int)}
  {name : String}

/-- What is no counter is one of the texts. -/
theorem attribute?_of_notMem (written : m.attributes = texts ++ positives counters)
    (absent : name ∉ counters.map (·.1)) :
    m.attribute? name = (texts.find? (·.1 == name)).map (·.2) := by
  have none : (positives counters).find? (·.1 == name) = none := by
    apply find?_of_notMem
    intro listed
    exact absent ((names_positives counters).subset listed)
  rw [attribute?, written, List.find?_append, none, Option.or_none]

/-- Attributes for the positive counters tell of all counters. -/
theorem reads_counterOf (written : m.attributes = texts ++ positives counters)
    (absent : name ∉ texts.map (·.1)) (distinct : (counters.map (·.1)).Nodup)
    (nonneg : ∀ c ∈ counters, 0 ≤ c.2) : m.Reads name (counterOf counters name) := by
  have none : texts.find? (·.1 == name) = none := find?_of_notMem absent
  have least := counterOf_nonneg nonneg name
  rw [Reads, attribute?, written, List.find?_append, none, Option.none_or, find?_positives distinct]
  by_cases h : 0 < counterOf counters name
  · simp [h]
  · simp only [h, if_false]
    show counterOf counters name = 0
    omega

end Markup

/-! ## Pieces of an element -/

/-- At most one element, of the tag that is given. -/
structure IsPiece (piece : String × List Markup) : Prop where
  alone : piece.2.length ≤ 1
  tagged : ∀ m ∈ piece.2, m.tag = piece.1

theorem IsPiece.cases {tag : String} {ms : List Markup} (h : IsPiece (tag, ms)) :
    ms = [] ∨ ∃ m, ms = [m] ∧ m.tag = tag := by
  obtain ⟨alone, tagged⟩ := h
  cases ms with
  | nil => exact .inl rfl
  | cons m ms =>
    obtain rfl : ms = [] := List.eq_nil_of_length_eq_zero (by simpa using alone)
    exact .inr ⟨m, rfl, tagged m (List.mem_singleton_self m)⟩

/-- The tags of the pieces that are there. -/
theorem tags_pieces {pieces : List (String × List Markup)} (h : ∀ p ∈ pieces, IsPiece p) :
    ((pieces.flatMap (·.2)).map (·.tag)).Sublist (pieces.map (·.1)) := by
  induction pieces with
  | nil => exact .slnil
  | cons p pieces ih =>
    obtain ⟨tag, ms⟩ := p
    obtain ⟨first, rest⟩ := List.forall_mem_cons.1 h
    rw [List.flatMap_cons, List.map_append, List.map_cons]
    rcases first.cases with rfl | ⟨m, rfl, rfl⟩
    · exact (ih rest).cons _
    · exact (ih rest).cons_cons _

/-- Among pieces of different tags, the child of a tag is the piece of that tag. -/
theorem Markup.child?_pieces {m : Markup} {pieces : List (String × List Markup)}
    (written : m.children = pieces.flatMap (·.2)) (h : ∀ p ∈ pieces, IsPiece p)
    (distinct : (pieces.map (·.1)).Nodup) {tag : String} {ms : List Markup}
    (hp : (tag, ms) ∈ pieces) : m.child? tag = ms.head? := by
  rw [child?, written]
  clear written
  induction pieces with
  | nil => cases hp
  | cons p pieces ih =>
    obtain ⟨new, distinct⟩ := List.nodup_cons.1 distinct
    obtain ⟨first, rest⟩ := List.forall_mem_cons.1 h
    rw [List.flatMap_cons, List.find?_append]
    cases hp with
    | head =>
      have none : (pieces.flatMap (·.2)).find? (·.tag == tag) = none := by
        apply find?_of_notMem
        intro listed
        exact new ((tags_pieces rest).subset listed)
      rw [none, Option.or_none]
      rcases first.cases with rfl | ⟨m, rfl, rfl⟩
      · rfl
      · simp
    | tail _ hp =>
      have listed : tag ∈ pieces.map (·.1) := List.mem_map_of_mem hp
      have other : p.1 ≠ tag := by
        rintro rfl
        exact new listed
      have none : p.2.find? (·.tag == tag) = none := by
        apply find?_of_notMem
        intro listed
        obtain ⟨m, hm, tagged⟩ := List.mem_map.1 listed
        exact other ((first.tagged m hm).symm.trans tagged)
      rw [none, Option.none_or, ih rest distinct hp]

theorem isPiece_sequenceOf (tag : String) (members : List Markup) :
    IsPiece (tag, sequenceOf tag members) := by
  unfold sequenceOf
  split <;> constructor <;> simp

theorem head?_sequenceOf {tag : String} {members : List Markup} :
    ((sequenceOf tag members).head?.getD ⟨tag, [], []⟩).children = members := by
  unfold sequenceOf
  split
  · rename_i empty
    exact (List.isEmpty_iff.1 empty).symm
  · rfl

theorem isPiece_markup (c : CommentCounts) : IsPiece ("comments", c.markup) := by
  unfold CommentCounts.markup
  split <;> constructor <;> simp

/-- The attributes of the comments, also of such as are left out. -/
theorem CommentCounts.Sound.head?_markup {c : CommentCounts} (h : c.Sound) :
    c.markup.head?.getD ⟨"comments", [], []⟩ = ⟨"comments", c.attributes, []⟩ := by
  unfold markup
  split
  · rename_i empty
    rw [h.eq_zero empty]
    rfl
  · rfl

/-! ## The parts of the tree in the two reports -/

/-- Counters by their names in an element report. -/
def CommentCounts.counters (c : CommentCounts) : List (String × Int) :=
  [("line-comments", c.lineComments), ("line-comments-length", c.lineCommentsLength),
    ("block-comments", c.blockComments), ("block-comments-lines", c.blockCommentLines),
    ("block-comments-length", c.blockCommentsLength), ("javadocs", c.docComments),
    ("javadoc-lines", c.docCommentLines), ("javadocs-length", c.docCommentsLength)]

def Totals.counters (t : Totals) : List (String × Int) :=
  [("modular-compilation-units", t.modularUnits), ("packages", t.packages),
    ("compilation-units", t.units), ("types", t.types), ("methods", t.methods),
    ("fields", t.fields), ("statements", t.statements)] ++ t.comments.counters

theorem CommentCounts.attributes_eq (c : CommentCounts) : c.attributes = positives c.counters := by
  simp [attributes, positives, counters]

theorem Totals.attributes_eq (t : Totals) : t.markup.attributes = positives t.counters := by
  simp [markup, CommentCounts.attributes, positives, counters, CommentCounts.counters]

namespace MetricsPart

/-- The counters that a part has itself, of statements or of directives. -/
def counters : MetricsPart → List (String × Int)
  | field f => [("statements", f.statements)]
  | method m => [("statements", m.statements)]
  | module m => [("requires", m.requires), ("exports", m.exports), ("provides", m.provides),
      ("uses", m.uses), ("opens", m.opens)]
  | statementCounter n => [("statements", n)]
  | _ => []

/-- No counter is negative, and what there is no comment of has neither lines nor length. -/
structure Sound (p : MetricsPart) : Prop where
  comments : p.comments.Sound
  counters : ∀ c ∈ p.counters, 0 ≤ c.2

/-- The elements in a list below. -/
def members : Listing → MetricsPart → List MetricsPart
  | .modularUnits, root c => c.modularUnits.map modularUnit
  | .packages, root c => c.packages.map package
  | .units, package p => p.units.map unit
  | .types, unit u => u.types.map type
  | .fields, type t => t.fields.map field
  | .methods, type t => t.methods.map method
  | .innerTypes, type t => t.innerTypes.map type
  | .localTypes, method m => m.localTypes.map type
  | _, _ => []

def summary? : MetricsPart → Option Totals
  | method m => some m.content
  | type t => some t.content
  | unit u => some u.content
  | package p => some p.content
  | root c => some c.total
  | _ => none

/-- The module that a modular unit declares stands in no list. -/
def module? : MetricsPart → Option (ModuleElement CommentCounts)
  | modularUnit u => some u.module
  | _ => none

theorem mem_children_of_mem_members {p q : MetricsPart} {l : Listing} (h : q ∈ p.members l) :
    q ∈ p.children := by
  cases l <;> cases p <;> simp [members, children] at h ⊢ <;> simp [h]

section Reports

variable (d : Metadata)

/-- A part in a document. A counter by itself would stand in an object without a name. -/
def document : MetricsPart → Json
  | field f => f.document
  | method m => m.document
  | type t => t.document
  | unit u => u.document
  | module m => m.document
  | modularUnit u => u.document
  | package p => p.document
  | root c => c.document d
  | commentCounter c => .object [("comments", c.document)]
  | statementCounter n => .object [("statements", .int n)]

/-- A part in an element report. The tag is that of a type. -/
def markup (tag : String) : MetricsPart → Markup
  | field f => f.markup
  | method m => m.markup
  | type t => t.markup tag
  | unit u => u.markup
  | module m => m.markup
  | modularUnit u => u.markup
  | package p => p.markup
  | root c => c.markup d
  | commentCounter c => ⟨tag, [], c.markup⟩
  | statementCounter n => ⟨tag, positive "statements" n, []⟩

def texts : MetricsPart → List (String × String)
  | field f => [("name", f.name.text), ("kind", f.kind.text)]
  | method m => [("name", m.name.text), ("kind", m.kind.text)]
  | type t => [("name", t.name.text), ("kind", t.kind.text)]
  | unit u => [("name", u.name.text)]
  | module m => [("name", m.name.text), ("open", if m.isOpen then "true" else "false")]
  | modularUnit u => [("name", u.name.text)]
  | package p => [("name", p.name)]
  | root _ => d.attributes
  | commentCounter _ | statementCounter _ => []

/-- The children of an element by their tags, in the order in which they are written. -/
def pieces (p : MetricsPart) : List (String × List Markup) :=
  [("summary", (p.summary?.map (·.markup)).toList), ("comments", p.comments.markup),
    ("module", (p.module?.map (·.markup)).toList)] ++
    Listing.all.map fun l =>
      (l.tag, sequenceOf l.tag ((p.members l).map (·.markup d l.memberTag)))

theorem attributes_markup (p : MetricsPart) (tag : String) :
    (p.markup d tag).attributes = p.texts d ++ positives p.counters := by
  cases p with
  | method m =>
    cases m
    simp [markup, MethodElement.markup, texts, counters, positives, MethodElement.name,
      MethodElement.kind, MethodElement.statements]
  | type t =>
    cases t
    rfl
  | module m => simp [markup, ModuleElement.markup, texts, counters, positives]
  | field f => simp [markup, FieldElement.markup, texts, counters, positives]
  | statementCounter n => simp [markup, texts, counters, positives]
  | root c => exact (List.append_nil _).symm
  | unit | modularUnit | package | commentCounter => rfl

theorem children_markup (p : MetricsPart) (tag : String) :
    (p.markup d tag).children = (p.pieces d).flatMap (·.2) := by
  have nothing : (0 : CommentCounts).markup = [] := rfl
  have empty (tag : String) : sequenceOf tag [] = [] := rfl
  have others : (p.pieces d).flatMap (·.2) = (p.summary?.map (·.markup)).toList ++
      p.comments.markup ++ (p.module?.map (·.markup)).toList ++
      Listing.all.flatMap fun l =>
        sequenceOf l.tag ((p.members l).map (·.markup d l.memberTag)) := by
    simp [pieces, List.flatMap_map]
  rw [others]
  cases p with
  | method m =>
    cases m
    simp [markup, MethodElement.markup, summary?, module?, members, Listing.all, Listing.tag,
      TypeElement.markups_eq, comments, empty, Function.comp_def, Listing.memberTag,
      MethodElement.localTypes, MethodElement.comments]
  | type t =>
    cases t
    simp [markup, TypeElement.markup, summary?, module?, members, Listing.all, Listing.tag,
      TypeElement.markups_eq, MethodElement.markups_eq, comments, empty, Function.comp_def,
      Listing.memberTag, TypeElement.fields, TypeElement.methods, TypeElement.innerTypes,
      TypeElement.comments]
  | unit u =>
    simp [markup, UnitElement.markup, summary?, module?, members, Listing.all, Listing.tag,
      TypeElement.markups_eq, comments, empty, Function.comp_def, Listing.memberTag]
  | modularUnit u =>
    simp [markup, ModularUnitElement.markup, summary?, module?, members, Listing.all, Listing.tag,
      comments, empty]
  | package p =>
    simp [markup, PackageElement.markup, summary?, module?, members, Listing.all, Listing.tag,
      comments, empty, Function.comp_def]
  | root c =>
    simp [markup, Census.markup, summary?, module?, members, Listing.all, Listing.tag, comments,
      nothing, empty, Function.comp_def]
  | module m =>
    simp [markup, ModuleElement.markup, summary?, module?, members, Listing.all, comments, empty]
  | field f =>
    simp [markup, FieldElement.markup, summary?, module?, members, Listing.all, comments, empty]
  | commentCounter c => simp [markup, summary?, module?, members, Listing.all, comments, empty]
  | statementCounter n =>
    simp [markup, summary?, module?, members, Listing.all, comments, nothing, empty]

theorem summary_document (p : MetricsPart) :
    (p.document d).member? "summary" = p.summary?.map (·.document) := by
  rcases p with _ | ⟨⟨⟩⟩ | ⟨⟨⟩⟩ | _ | _ | _ | _ | _ | _ | _ <;> rfl

theorem module_document (p : MetricsPart) :
    (p.document d).member? "module" = p.module?.map (·.document) := by
  rcases p with _ | ⟨⟨⟩⟩ | ⟨⟨⟩⟩ | _ | _ | _ | _ | _ | _ | _ <;> rfl

/-- Where no comments stand, there are none. -/
theorem comments_document (p : MetricsPart) :
    (p.document d).member "comments" = p.comments.document ∨
      (p.document d).member "comments" = .null ∧ p.comments = 0 := by
  cases p with
  | root | statementCounter => exact .inr ⟨rfl, rfl⟩
  | method m =>
    cases m
    exact .inl rfl
  | type t =>
    cases t
    exact .inl rfl
  | field | unit | module | modularUnit | package | commentCounter => exact .inl rfl

theorem listOf_document (p : MetricsPart) (l : Listing) :
    (p.document d).listOf l.key = (p.members l).map (·.document d) := by
  cases p with
  | method m =>
    cases m
    cases l with
    | localTypes =>
      rw [members, List.map_map]
      exact TypeElement.documents_eq _
    | _ => rfl
  | type t =>
    cases t
    cases l with
    | fields =>
      rw [members, List.map_map]
      rfl
    | methods =>
      rw [members, List.map_map]
      exact MethodElement.documents_eq _
    | innerTypes =>
      rw [members, List.map_map]
      exact TypeElement.documents_eq _
    | _ => rfl
  | unit u =>
    cases l with
    | types =>
      rw [members, List.map_map]
      rfl
    | _ => rfl
  | package p =>
    cases l with
    | units =>
      rw [members, List.map_map]
      rfl
    | _ => rfl
  | root c =>
    cases l with
    | modularUnits =>
      rw [members, List.map_map]
      rfl
    | packages =>
      rw [members, List.map_map]
      rfl
    | _ => rfl
  | field | module | modularUnit | commentCounter | statementCounter => cases l <;> rfl

theorem keys_document (p : MetricsPart) :
    ((p.document d).members.map (·.1)).Sublist elementKeys := by
  rw [← List.isSublist_iff_sublist]
  rcases p with _ | ⟨⟨⟩⟩ | ⟨⟨⟩⟩ | _ | _ | _ | _ | _ | _ | _ <;> rfl

theorem flag_document (p : MetricsPart) :
    ((p.texts d).find? (·.1 == "open")).map (·.2) =
      ((p.document d).member "open").bool?.map fun isOpen =>
        if isOpen then "true" else "false" := by
  cases p with
  | method m =>
    cases m
    rfl
  | type t =>
    cases t
    rfl
  | root c =>
    obtain ⟨created, version⟩ := d
    cases created <;> cases version <;> rfl
  | _ => rfl

theorem texts_document (p : MetricsPart) : ∀ name ∈ elementTexts,
    ((p.texts d).find? (·.1 == name)).map (·.2) = (p.document d).text? name := by
  simp only [elementTexts, List.forall_mem_cons]
  cases p with
  | method m =>
    cases m
    exact ⟨rfl, rfl, rfl, rfl, rfl, List.forall_mem_nil _⟩
  | type t =>
    cases t
    exact ⟨rfl, rfl, rfl, rfl, rfl, List.forall_mem_nil _⟩
  | root c =>
    obtain ⟨created, version⟩ := d
    cases created <;> cases version <;> exact ⟨rfl, rfl, rfl, rfl, rfl, List.forall_mem_nil _⟩
  | _ => exact ⟨rfl, rfl, rfl, rfl, rfl, List.forall_mem_nil _⟩

theorem counters_document (p : MetricsPart) : ∀ c ∈ elementCounters,
    ((p.document d).member c.1).toInt = counterOf p.counters c.2 := by
  simp only [elementCounters, List.map_cons, List.map_nil, List.forall_mem_cons]
  rcases p with _ | ⟨⟨⟩⟩ | ⟨⟨⟩⟩ | _ | _ | _ | _ | _ | _ | _ <;>
    exact ⟨rfl, rfl, rfl, rfl, rfl, rfl, List.forall_mem_nil _⟩

theorem names_texts (p : MetricsPart) :
    ((p.texts d).map (·.1)).Sublist (elementTexts ++ ["open"]) := by
  rw [← List.isSublist_iff_sublist]
  cases p with
  | root c =>
    obtain ⟨created, version⟩ := d
    cases created <;> cases version <;> rfl
  | _ => rfl

end Reports

theorem names_counters (p : MetricsPart) :
    (p.counters.map (·.1)).Sublist (elementCounters.map (·.2)) := by
  rw [← List.isSublist_iff_sublist]
  cases p <;> rfl

end MetricsPart

/-! ## Tables of counters -/

theorem CommentCounts.Sound.counters {c : CommentCounts} (h : c.Sound) :
    ∀ x ∈ c.counters, 0 ≤ x.2 := by
  simp only [CommentCounts.counters, List.forall_mem_cons]
  exact ⟨h.lineComments, h.lineCommentsLength, h.blockComments, h.blockCommentLines,
    h.blockCommentsLength, h.docComments, h.docCommentLines, h.docCommentsLength,
    List.forall_mem_nil _⟩

/-- An element without children, with attributes for positive counters. -/
theorem sameCounters_positives {table : List (String × String)} {counters : List (String × Int)}
    {o : Json} {m : Markup} (written : m.attributes = positives counters)
    (names : counters.map (·.1) = table.map (·.2)) (distinct : (table.map (·.2)).Nodup)
    (nonneg : ∀ c ∈ counters, 0 ≤ c.2)
    (told : ∀ c ∈ table, (o.member c.1).toInt = counterOf counters c.2) :
    SameCounters table o m := by
  have written : m.attributes = [] ++ positives counters := written
  intro c hc
  rw [told c hc]
  exact Markup.reads_counterOf written List.not_mem_nil (names ▸ distinct) nonneg

theorem sameTable_comments {c : CommentCounts} (h : c.Sound) {o : Json}
    (document : o = c.document ∨ o = .null ∧ c = 0) :
    SameTable commentCounters o ⟨"comments", c.attributes, []⟩ := by
  have names : c.counters.map (·.1) = commentCounters.map (·.2) := rfl
  refine ⟨?_, ?_, ?_, rfl⟩
  · apply sameCounters_positives c.attributes_eq names (by decide) h.counters
    simp only [commentCounters, List.forall_mem_cons]
    rcases document with rfl | ⟨rfl, rfl⟩
    · exact ⟨rfl, rfl, rfl, rfl, rfl, rfl, rfl, rfl, List.forall_mem_nil _⟩
    · exact ⟨rfl, rfl, rfl, rfl, rfl, rfl, rfl, rfl, List.forall_mem_nil _⟩
  · rcases document with rfl | ⟨rfl, -⟩
    · exact .refl _
    · exact List.nil_sublist _
  · rw [c.attributes_eq, ← names]
    exact names_positives _

theorem sameTable_summary {t : Totals} (nonneg : ∀ c ∈ t.counters, 0 ≤ c.2) :
    SameTable summaryCounters t.document t.markup := by
  have names : t.counters.map (·.1) = summaryCounters.map (·.2) := rfl
  refine ⟨?_, .refl _, ?_, rfl⟩
  · apply sameCounters_positives t.attributes_eq names (by decide) nonneg
    simp only [summaryCounters, commentCounters, List.cons_append, List.nil_append,
      List.forall_mem_cons]
    exact ⟨rfl, rfl, rfl, rfl, rfl, rfl, rfl, rfl, rfl, rfl, rfl, rfl, rfl, rfl, rfl,
      List.forall_mem_nil _⟩
  · rw [t.attributes_eq, ← names]
    exact names_positives _

namespace MetricsPart

theorem Sound.statements {p : MetricsPart} (h : p.Sound) : 0 ≤ p.statements := by
  cases p with
  | field | method | statementCounter => exact h.counters _ (List.mem_singleton_self _)
  | _ => exact le_rfl

/-- Totals over sound parts are not negative. -/
theorem counters_flat {counted holding : List MetricsPart} (h : ∀ q ∈ holding, q.Sound) :
    ∀ c ∈ (Totals.flat counted holding).counters, 0 ≤ c.2 := by
  have statements : 0 ≤ (holding.map (·.statements)).sum := by
    apply List.sum_nonneg
    rw [List.forall_mem_map]
    intro q hq
    exact (h q hq).statements
  have comments : (holding.map MetricsPart.comments).sum.Sound := by
    apply CommentCounts.Sound.sum
    rw [List.forall_mem_map]
    intro q hq
    exact (h q hq).comments
  have level (l : Level) : 0 ≤ countAt l counted := Int.natCast_nonneg _
  simp only [Totals.counters, List.cons_append, List.nil_append, List.forall_mem_cons]
  exact ⟨level _, level _, level _, level _, level _, level _, statements, comments.counters⟩

theorem summary?_eq {p : MetricsPart} {t : Totals} (h : p.summary? = some t) :
    t = .flat p.below p.nodes := by
  rw [← contentCount_eq_flat]
  cases p with
  | root c =>
    cases h
    exact Totals.zero_add _
  | method | type | unit | package =>
    cases h
    rfl
  | _ => cases h

/-! ## Agreement of the reports -/

section Agreement

variable (d : Metadata)

theorem isPiece_pieces (p : MetricsPart) : ∀ x ∈ p.pieces d, IsPiece x := by
  simp only [pieces, List.forall_mem_append, List.forall_mem_cons, List.forall_mem_map]
  refine ⟨⟨?_, isPiece_markup _, ?_, List.forall_mem_nil _⟩, fun l _ => isPiece_sequenceOf _ _⟩
  · cases p.summary? <;> constructor <;> simp [Totals.markup]
  · cases p.module? <;> constructor <;> simp [ModuleElement.markup]

theorem tags_pieces_eq (p : MetricsPart) : (p.pieces d).map (·.1) = elementTags :=
  rfl

theorem child?_markup (p : MetricsPart) (tag : String) {t : String} {ms : List Markup}
    (h : (t, ms) ∈ p.pieces d) : (p.markup d tag).child? t = ms.head? := by
  apply Markup.child?_pieces (children_markup d p tag) (isPiece_pieces d p) _ h
  rw [tags_pieces_eq]
  decide

theorem child?_listing (p : MetricsPart) (tag : String) (l : Listing) :
    (p.markup d tag).child? l.tag =
      (sequenceOf l.tag ((p.members l).map (·.markup d l.memberTag))).head? := by
  apply child?_markup
  exact List.mem_append_right _ (List.mem_map.2 ⟨l, l.mem_all, rfl⟩)

theorem child_listing (p : MetricsPart) (tag : String) (l : Listing) :
    ((p.markup d tag).child l.tag).children = (p.members l).map (·.markup d l.memberTag) := by
  rw [Markup.child, child?_listing]
  exact head?_sequenceOf

theorem tag_markup {p q : MetricsPart} {l : Listing} (h : q ∈ p.members l) :
    (q.markup d l.memberTag).tag = l.memberTag := by
  cases l <;> cases p <;> simp only [members, List.mem_map, List.not_mem_nil] at h <;>
    obtain ⟨x, -, rfl⟩ := h <;> cases x <;> rfl

theorem sameOwn {p : MetricsPart} (h : ∀ q ∈ p.nodes, q.Sound) (tag : String) :
    SameOwn (p.document d) (p.markup d tag) where
  texts := by
    intro name hname
    have apart : ∀ name ∈ elementTexts, name ∉ elementCounters.map (·.2) := by decide
    have absent : name ∉ p.counters.map (·.1) := fun listed =>
      apart name hname ((names_counters p).subset listed)
    rw [Markup.attribute?_of_notMem (attributes_markup d p tag) absent]
    exact texts_document d p name hname
  flag := by
    have apart : "open" ∉ elementCounters.map (·.2) := by decide
    have absent : "open" ∉ p.counters.map (·.1) := fun listed =>
      apart ((names_counters p).subset listed)
    rw [Markup.attribute?_of_notMem (attributes_markup d p tag) absent]
    exact flag_document d p
  counters := by
    intro c hc
    have apart : ∀ c ∈ elementCounters, c.2 ∉ elementTexts ++ ["open"] := by decide
    have absent : c.2 ∉ (p.texts d).map (·.1) := fun listed =>
      apart c hc ((names_texts d p).subset listed)
    have distinct : (p.counters.map (·.1)).Nodup := by
      apply (names_counters p).nodup
      decide
    rw [counters_document d p c hc]
    exact Markup.reads_counterOf (attributes_markup d p tag) absent distinct
      (h p (mem_nodes_self p)).counters
  summary := by
    have piece : (p.markup d tag).child? "summary" = p.summary?.map (·.markup) := by
      rw [child?_markup d p tag (List.mem_cons_self ..)]
      cases p.summary? <;> rfl
    rw [summary_document, piece]
    cases found : p.summary? with
    | none => exact .none
    | some t =>
      apply Option.Rel.some
      apply sameTable_summary
      rw [summary?_eq found]
      exact counters_flat h
  comments := by
    have sound := (h p (mem_nodes_self p)).comments
    have piece : (p.markup d tag).child? "comments" = p.comments.markup.head? :=
      child?_markup d p tag (List.mem_cons_of_mem _ (List.mem_cons_self ..))
    rw [Markup.child, piece, sound.head?_markup]
    exact sameTable_comments sound (comments_document d p)
  sequences := by
    intro l s found
    rw [child?_listing] at found
    unfold sequenceOf at found
    split at found
    · cases found
    · cases found
      refine ⟨rfl, ?_⟩
      rw [List.forall_mem_map]
      intro q hq
      exact tag_markup d hq
  keys := keys_document d p
  names := by
    rw [attributes_markup, List.map_append]
    exact (names_texts d p).append ((names_positives _).trans (names_counters p))
  tags := by
    rw [children_markup, ← tags_pieces_eq d p]
    exact tags_pieces (isPiece_pieces d p)

theorem agrees {p : MetricsPart} (h : ∀ q ∈ p.nodes, q.Sound) (tag : String) :
    Agrees (p.document d) (p.markup d tag) := by
  induction p using MetricsPart.induction generalizing tag with
  | step p ih =>
    have below (q : MetricsPart) (hq : q ∈ p.children) (tag : String) :
        Agrees (q.document d) (q.markup d tag) :=
      ih q hq (fun r hr => h r (mem_nodes_of_mem_children hq hr)) tag
    apply Agrees.intro (sameOwn d h tag)
    · have piece : (p.markup d tag).child? "module" = p.module?.map (·.markup) := by
        rw [child?_markup d p tag
          (List.mem_cons_of_mem _ (List.mem_cons_of_mem _ (List.mem_cons_self ..)))]
        cases p.module? <;> rfl
      rw [module_document, piece]
      cases p with
      | modularUnit u => exact .some (below (module u.module) (List.mem_singleton_self _) "module")
      | _ => exact .none
    · intro l
      rw [listOf_document, child_listing, List.forall₂_map_left_iff, List.forall₂_map_right_iff,
        List.forall₂_same]
      intro q hq
      exact below q (mem_children_of_mem_members hq) l.memberTag

end Agreement

end MetricsPart

/-- The document and the element report of a sound tree tell the same. Counts of comments that do
not end before they begin are sound. -/
theorem Census.agrees_markup {c : Census} (sound : ∀ p ∈ (MetricsPart.root c).nodes, p.Sound)
    (d : Metadata) :
    Agrees (c.document d) (c.markup d) ∧
      ∀ cs : List Comment, (∀ x ∈ cs, x.span.startLine ≤ x.span.stopLine) →
        (CommentCounts.ofComments cs).Sound := by
  constructor
  · exact MetricsPart.agrees d sound "javameter-report"
  · intro cs ordered
    exact CommentCounts.sound_ofComments ordered

namespace MetricsPart

theorem sound_nodes {p : MetricsPart} (own : p.Sound)
    (below : ∀ c ∈ p.children, ∀ q ∈ c.nodes, q.Sound) : ∀ q ∈ p.nodes, q.Sound := by
  intro q hq
  rw [nodes_eq, List.mem_cons] at hq
  rcases hq with rfl | hq
  · exact own
  · obtain ⟨c, hc, hq⟩ := List.mem_flatMap.1 hq
    exact below c hc q hq

theorem sound_outerType : ∀ q ∈ (type outerType).nodes, q.Sound := by
  have inner : ∀ q ∈ (type localType).nodes, q.Sound :=
    sound_nodes ⟨by constructor <;> decide, by decide⟩ (List.forall_mem_nil _)
  apply sound_nodes ⟨by constructor <;> decide, by decide⟩
  show ∀ c ∈ [field _, method _, type localType], _
  simp only [List.forall_mem_cons]
  refine ⟨?_, ?_, inner, List.forall_mem_nil _⟩
  · exact sound_nodes ⟨by constructor <;> decide, by decide⟩ (List.forall_mem_nil _)
  · apply sound_nodes ⟨by constructor <;> decide, by decide⟩
    show ∀ c ∈ [type localType, type localType], _
    simp only [List.forall_mem_cons]
    exact ⟨inner, inner, List.forall_mem_nil _⟩

theorem sound_nestedCensus : ∀ q ∈ (root nestedCensus).nodes, q.Sound := by
  apply sound_nodes ⟨by constructor <;> decide, by decide⟩
  show ∀ c ∈ [modularUnit _, package nestedPackage], _
  simp only [List.forall_mem_cons]
  refine ⟨?_, ?_, List.forall_mem_nil _⟩
  · apply sound_nodes ⟨by constructor <;> decide, by decide⟩
    show ∀ c ∈ [module _], _
    rw [List.forall_mem_singleton]
    exact sound_nodes ⟨by constructor <;> decide, by decide⟩ (List.forall_mem_nil _)
  · apply sound_nodes ⟨by constructor <;> decide, by decide⟩
    show ∀ c ∈ [unit nestedUnit], _
    rw [List.forall_mem_singleton]
    apply sound_nodes ⟨by constructor <;> decide, by decide⟩
    show ∀ c ∈ [type outerType], _
    rw [List.forall_mem_singleton]
    exact sound_outerType

end MetricsPart

/-- Of a tree whose module exports nothing, the document says so and the element report leaves it
out. -/
theorem Census.agrees_markup_nestedCensus :
    (∀ q ∈ (MetricsPart.root MetricsPart.nestedCensus).nodes, q.Sound) ∧
      Agrees (MetricsPart.nestedCensus.document ⟨none, some "1"⟩)
        (MetricsPart.nestedCensus.markup ⟨none, some "1"⟩) :=
  ⟨MetricsPart.sound_nestedCensus, (agrees_markup MetricsPart.sound_nestedCensus _).1⟩

end JavaCensus
