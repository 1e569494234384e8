import JavaCensus.Proofs.FlatTotals
import JavaCensus.Report.Format

/-!
# The outline mirrors the tree

The outline is written by functions that call each other and move one level up and down as they go.
Each of them leaves the level as it found it, and each element gets a line that is indented by as
many steps as there are elements above it.
-/
namespace JavaCensus

/-- A line, and how far it stands from the level at which the writing began. -/
structure OutlineLine where
  depth : Int
  text : String

namespace OutlineLine

/-- How the line is written: two blanks for each step, and the text. -/
def writtenAt (level : Int) (l : OutlineLine) : String :=
  String.join (List.replicate (level + l.depth).toNat "  ") ++ l.text

/-- The lines some steps deeper. -/
def deeper (k : Int) (ls : List OutlineLine) : List OutlineLine :=
  ls.map fun l => ⟨k + l.depth, l.text⟩

@[simp]
theorem deeper_nil (k : Int) : deeper k [] = [] :=
  rfl

@[simp]
theorem deeper_cons (k : Int) (l : OutlineLine) (ls : List OutlineLine) :
    deeper k (l :: ls) = ⟨k + l.depth, l.text⟩ :: deeper k ls :=
  rfl

@[simp]
theorem deeper_append (k : Int) (ls ms : List OutlineLine) :
    deeper k (ls ++ ms) = deeper k ls ++ deeper k ms :=
  List.map_append

@[simp]
theorem deeper_zero (ls : List OutlineLine) : deeper 0 ls = ls := by
  simp [deeper]

theorem deeper_deeper (j k : Int) (ls : List OutlineLine) :
    deeper j (deeper k ls) = deeper (j + k) ls := by
  simp only [deeper, List.map_map, Function.comp_def, Int.add_assoc]

theorem deeper_flatMap {α : Type} (k : Int) (f : α → List OutlineLine) (xs : List α) :
    deeper k (xs.flatMap f) = xs.flatMap fun x => deeper k (f x) :=
  List.map_flatMap

theorem writtenAt_deeper (level k : Int) (ls : List OutlineLine) :
    (deeper k ls).map (·.writtenAt level) = ls.map (·.writtenAt (level + k)) := by
  simp only [deeper, List.map_map, Function.comp_def, writtenAt, Int.add_assoc]

end OutlineLine

open OutlineLine (deeper)

namespace Outline

/-! ## What a writer does -/

/-- The writer adds the lines, which stand relative to the level it starts at, and changes the level
by `k`. -/
def Writes (w : OutlineWriter) (ls : List OutlineLine) (k : Int) : Prop :=
  ∀ o : Outline, w.run o =
    ((), ⟨o.lines ++ (ls.map (·.writtenAt o.level)).toArray, o.level + k⟩)

theorem writes_pure : Writes (pure ()) [] 0 := by
  intro o
  show ((), o) = ((), _)
  simp

theorem margin_eq (level : Int) :
    margin level = String.join (List.replicate level.toNat "  ") := by
  rw [margin, ← String.toList_inj, String.toList_ofList, String.toList_join, List.flatMap_replicate]
  show _ = (List.replicate _ (List.replicate 2 ' ')).flatten
  rw [List.flatten_replicate_replicate, Nat.mul_comm]

theorem writes_line (text : String) : Writes (line text) [⟨0, text⟩] 0 := by
  intro o
  show ((), Outline.mk (o.lines.push (margin o.level ++ text)) o.level) = ((), _)
  simp [OutlineLine.writtenAt, margin_eq]

theorem writes_indent : Writes indent [] 1 := by
  intro o
  show ((), Outline.mk o.lines (o.level + 1)) = ((), _)
  simp

theorem writes_dedent : Writes dedent [] (-1) := by
  intro o
  show ((), Outline.mk o.lines (o.level - 1)) = ((), _)
  simp [Int.sub_eq_add_neg]

theorem Writes.bind {w v : OutlineWriter} {ls ms : List OutlineLine} {j k : Int}
    (hw : Writes w ls j) (hv : Writes v ms k) :
    Writes (do w; v) (ls ++ deeper j ms) (j + k) := by
  intro o
  rw [StateT.run_bind, hw o]
  show v.run _ = _
  rw [hv]
  simp [OutlineLine.writtenAt_deeper, Int.add_assoc]

theorem writes_lineFor (n : Int) (text : String) :
    Writes (lineFor n text) (if 0 < n then [⟨0, text⟩] else []) 0 := by
  unfold lineFor
  split
  · exact writes_line text
  · exact writes_pure

theorem writes_forM {α : Type} {f : α → OutlineWriter} {g : α → List OutlineLine} {xs : List α}
    (h : ∀ x ∈ xs, Writes (f x) (g x) 0) : Writes (forM xs f) (xs.flatMap g) 0 := by
  induction xs with
  | nil => exact writes_pure
  | cons x xs ih =>
    obtain ⟨first, rest⟩ := List.forall_mem_cons.1 h
    rw [List.forM_cons, List.flatMap_cons]
    simpa using first.bind (ih rest)

/-- What stands between going deeper and coming back stands one step deeper. -/
theorem Writes.nested {w : OutlineWriter} {ls : List OutlineLine} (h : Writes w ls 0) :
    Writes (do indent; w; dedent) (deeper 1 ls) 0 := by
  simpa using writes_indent.bind (h.bind writes_dedent)

/-! ## Counts -/

/-- What the outline says of a kind of comments, with the number of them. -/
def ofComments (c : CommentCounts) : List (Int × String) :=
  [(c.lineComments, toString c.lineComments ++ " line comments, total length " ++
      toString c.lineCommentsLength),
    (c.blockComments, toString c.blockComments ++ " block comments on " ++
      toString c.blockCommentLines ++ " lines, total length " ++ toString c.blockCommentsLength),
    (c.docComments, toString c.docComments ++ " JavaDoc comments on " ++
      toString c.docCommentLines ++ " lines, total length " ++ toString c.docCommentsLength)]

/-- A number and what is counted. -/
def ofCount (n : Int) (suffix : String) : Int × String :=
  (n, toString n ++ suffix)

def ofTotals (t : Totals) : List (Int × String) :=
  [ofCount t.modularUnits " modules", ofCount t.packages " packages",
    ofCount t.units " compilation units", ofCount t.types " types",
    ofCount t.methods " methods", ofCount t.fields " fields",
    ofCount t.statements " statements"] ++ ofComments t.comments

/-- A line for each positive number. -/
def positiveLines (counts : List (Int × String)) : List OutlineLine :=
  (counts.filter (0 < ·.1)).map fun c => ⟨0, c.2⟩

def writeCounts (counts : List (Int × String)) : OutlineWriter :=
  forM counts fun c => lineFor c.1 c.2

theorem writes_writeCounts (counts : List (Int × String)) :
    Writes (writeCounts counts) (positiveLines counts) 0 := by
  have lines : positiveLines counts =
      counts.flatMap fun c => if 0 < c.1 then [⟨0, c.2⟩] else [] := by
    induction counts with
    | nil => rfl
    | cons c counts ih =>
      rw [List.flatMap_cons, ← ih]
      by_cases h : 0 < c.1 <;> simp [positiveLines, h]
  rw [lines]
  apply writes_forM
  intro c _
  exact writes_lineFor c.1 c.2

theorem writeCounts_append (cs ds : List (Int × String)) :
    writeCounts (cs ++ ds) = (do writeCounts cs; writeCounts ds) := by
  rw [writeCounts, List.forM_append]
  rfl

theorem writeComments_eq (c : CommentCounts) : writeComments c = writeCounts (ofComments c) := by
  simp [writeComments, writeCounts, ofComments]

theorem writeTotals_eq (t : Totals) : writeTotals t = writeCounts (ofTotals t) := by
  rw [ofTotals, writeCounts_append, ← writeComments_eq]
  simp [writeTotals, writeCounts, ofCount, count]

end Outline

namespace MetricsPart

open Outline

/-! ## Elements and what stands above them -/

/-- The part and all below it, each with the parts above it, the nearest first. -/
def lineages (above : List MetricsPart) (p : MetricsPart) : List (MetricsPart × List MetricsPart) :=
  (p, above) :: p.children.attach.flatMap fun c => c.1.lineages (p :: above)
termination_by p
decreasing_by exact sizeOf_lt_of_mem_children c.2

theorem lineages_eq (above : List MetricsPart) (p : MetricsPart) :
    p.lineages above = (p, above) :: p.children.flatMap fun c => c.lineages (p :: above) := by
  rw [lineages, List.flatMap_subtype (g := fun c => lineages (p :: above) c) fun _ _ => rfl,
    List.unattach_attach]

/-- Each part of the tree has a lineage, in the order of the parts. -/
theorem parts_lineages (above : List MetricsPart) (p : MetricsPart) :
    (p.lineages above).map (·.1) = p.nodes := by
  induction p using MetricsPart.induction generalizing above with
  | step p ih =>
    rw [lineages_eq, nodes_eq, List.map_cons, List.map_flatMap, below]
    congr 1
    apply List.flatMap_congr
    intro c hc
    exact ih c hc (p :: above)

theorem lineages_append (above upper : List MetricsPart) (p : MetricsPart) :
    p.lineages (above ++ upper) = (p.lineages above).map fun l => (l.1, l.2 ++ upper) := by
  induction p using MetricsPart.induction generalizing above with
  | step p ih =>
    rw [lineages_eq, lineages_eq, List.map_cons, List.map_flatMap]
    congr 1
    apply List.flatMap_congr
    intro c hc
    exact ih c hc (p :: above)

/-- A lineage leads from child to parent up to where the tree begins. -/
theorem chain_lineages {p : MetricsPart} {above : List MetricsPart}
    (chain : (p :: above).IsChain fun c q => c ∈ q.children) :
    ∀ l ∈ p.lineages above, (l.1 :: l.2).IsChain (fun c q => c ∈ q.children) ∧
      (p :: above) <:+ (l.1 :: l.2) := by
  induction p using MetricsPart.induction generalizing above with
  | step p ih =>
    rw [lineages_eq, List.forall_mem_cons]
    refine ⟨⟨chain, List.suffix_refl _⟩, ?_⟩
    simp only [List.mem_flatMap]
    rintro l ⟨c, hc, hl⟩
    obtain ⟨chain, suffix⟩ := ih c hc (List.isChain_cons_cons.2 ⟨hc, chain⟩) l hl
    exact ⟨chain, (List.suffix_cons c _).trans suffix⟩

/-! ## The line of an element and the lines of its counts -/

def headline : MetricsPart → String
  | field f => f.kind.text ++ " " ++ f.name.text
  | method m => m.kind.text ++ " " ++ m.name.text
  | type t => t.kind.text ++ " " ++ t.name.text
  | unit u => u.name.text
  | module m => (if m.isOpen then "open module" else "module") ++ " " ++ m.name.text
  | modularUnit u => u.name.text
  | package p => "package " ++ p.name
  | root _ => "Details:"
  | commentCounter _ | statementCounter _ => ""

/-- What an element counts itself, besides comments. -/
def ownCounts : MetricsPart → List (Int × String)
  | field f => [ofCount f.statements " statements"]
  | method m => [ofCount m.statements " statements"]
  | module m => [ofCount m.requires " requires", ofCount m.exports " exports",
      ofCount m.provides " provides", ofCount m.uses " uses", ofCount m.opens " opens"]
  | _ => []

/-- The lines for what an element has a positive number of, of comments or of its own counts. -/
def notes (p : MetricsPart) : List OutlineLine :=
  positiveLines (Outline.ofComments p.comments ++ p.ownCounts)

/-- The line of an element, which is as deep as many stand above it, and its notes one step
deeper. -/
def entry (l : MetricsPart × List MetricsPart) : List OutlineLine :=
  deeper l.2.length (⟨0, l.1.headline⟩ :: deeper 1 l.1.notes)

/-- The lines of a tree. -/
def lines (p : MetricsPart) : List OutlineLine :=
  (p.lineages []).flatMap entry

/-- One more part above an element puts its lines one step deeper. -/
theorem entry_concat (p q : MetricsPart) (above : List MetricsPart) :
    entry (p, above ++ [q]) = deeper 1 (entry (p, above)) := by
  simp only [entry, OutlineLine.deeper_deeper, List.length_append, List.length_singleton]
  congr 1
  omega

/-- The line of an element, and one step deeper its notes and what is below it. -/
theorem lines_eq (p : MetricsPart) : p.lines =
    ⟨0, p.headline⟩ :: deeper 1 (p.notes ++ p.children.flatMap lines) := by
  have below (c : MetricsPart) : (c.lineages [p]).flatMap entry = deeper 1 c.lines := by
    have above := lineages_append [] [p] c
    rw [List.nil_append] at above
    rw [above, List.flatMap_map, lines, OutlineLine.deeper_flatMap]
    exact List.flatMap_congr fun l _ => entry_concat l.1 p l.2
  rw [lines, lineages_eq, List.flatMap_cons, List.flatMap_assoc]
  simp only [below]
  rw [OutlineLine.deeper_append, OutlineLine.deeper_flatMap]
  simp [entry]

/-! ## Each element is written with all that is below it -/

/-- The writer for an element. The root and the counters are not written by themselves. -/
def write : MetricsPart → OutlineWriter
  | field f => writeField f
  | method m => writeMethod m
  | type t => writeType t
  | unit u => writeUnit u
  | module m => writeModule m
  | modularUnit u => writeModularUnit u
  | package p => writePackage p
  | root _ | commentCounter _ | statementCounter _ => pure ()

/-- An element that the outline has a line for. -/
def IsWritten (p : MetricsPart) : Prop :=
  p.IsElement ∧ ∀ c, p ≠ root c

theorem IsWritten.of_mem_children {c p : MetricsPart} (h : c ∈ p.children) : c.IsWritten := by
  refine ⟨.of_mem_children h, ?_⟩
  rintro r rfl
  cases p <;> simp [children] at h

/-- All writers do the same: the line of the element, and one step deeper its counts and then what
is directly below. -/
theorem write_eq {p : MetricsPart} (h : p.IsWritten) :
    p.write = (do
      line p.headline
      indent
      writeCounts (Outline.ofComments p.comments ++ p.ownCounts)
      forM p.children write
      dedent) := by
  rw [writeCounts_append, ← writeComments_eq]
  cases p with
  | field f =>
    simp [write, writeField, headline, comments, ownCounts, children, writeCounts, ofCount, count]
  | method m =>
    cases m
    simp [write, writeMethod, headline, comments, ownCounts, children, writeCounts, ofCount, count,
      MethodElement.kind, MethodElement.name, MethodElement.comments, MethodElement.statements,
      MethodElement.localTypes, writeTypes_eq]
  | type t =>
    cases t
    simp [write, writeType, headline, comments, ownCounts, children, writeCounts,
      TypeElement.kind, TypeElement.name, TypeElement.comments, TypeElement.fields,
      TypeElement.methods, TypeElement.innerTypes, writeMethods_eq, writeTypes_eq]
  | unit u => simp [write, writeUnit, headline, comments, ownCounts, children, writeCounts]
  | module m =>
    simp [write, writeModule, headline, comments, ownCounts, children, writeCounts, ofCount, count]
  | modularUnit u =>
    simp [write, writeModularUnit, headline, comments, ownCounts, children, writeCounts]
  | package p => simp [write, writePackage, headline, comments, ownCounts, children, writeCounts]
  | root c => exact absurd rfl (h.2 c)
  | commentCounter | statementCounter =>
    have element := h.1
    cases element

/-- An element is written with all that is below it, and the level is as it was. -/
theorem writes_write {p : MetricsPart} (h : p.IsWritten) : Writes p.write p.lines 0 := by
  induction p using MetricsPart.induction with
  | step p ih =>
    have children : Writes (forM p.children write) (p.children.flatMap lines) 0 :=
      writes_forM fun c hc => ih c hc (.of_mem_children hc)
    have notes : Writes (writeCounts (Outline.ofComments p.comments ++ p.ownCounts)) p.notes 0 :=
      writes_writeCounts _
    have whole := (writes_line p.headline).bind (notes.bind children).nested
    rw [write_eq h, lines_eq]
    simpa using whole

/-- The root holds nothing of its own. -/
theorem lines_root (c : Census) : (root c).lines =
    ⟨0, "Details:"⟩ :: deeper 1 ((root c).children.flatMap lines) :=
  lines_eq (root c)

end MetricsPart

/-- The first line, with the time and the version as far as they are known. -/
def Metadata.header : Metadata → String
  | ⟨none, none⟩ => "Javameter report"
  | ⟨some t, none⟩ => "Javameter report created" ++ (" on " ++ t.date.text ++ " " ++ t.time.text)
  | ⟨none, some v⟩ => "Javameter report created" ++ (" with version " ++ v)
  | ⟨some t, some v⟩ => "Javameter report created" ++ (" on " ++ t.date.text ++ " " ++ t.time.text) ++
      (" with version " ++ v)

theorem Metadata.heading_eq (d : Metadata) : d.heading = d.header := by
  match d with
  | ⟨none, none⟩ => rfl
  | ⟨some t, none⟩ => exact String.append_empty
  | ⟨none, some v⟩ => exact congrArg (· ++ _) String.append_empty
  | ⟨some t, some v⟩ => rfl

namespace Census

open Outline MetricsPart

theorem writeCensus_eq (c : Census) (d : Metadata) :
    writeCensus c d = (do
      line d.header
      line "Summary:"
      indent
      writeCounts (ofTotals c.total)
      dedent
      line "Details:"
      indent
      forM (root c).children write
      dedent) := by
  rw [← writeTotals_eq, ← d.heading_eq]
  simp [writeCensus, children, write]

theorem writes_writeCensus (c : Census) (d : Metadata) :
    Writes (writeCensus c d)
      (⟨0, d.header⟩ :: ⟨0, "Summary:"⟩ :: deeper 1 (positiveLines (ofTotals c.total)) ++
        (root c).lines) 0 := by
  have children : Writes (forM (root c).children write) ((root c).children.flatMap lines) 0 :=
    writes_forM fun p hp => writes_write (.of_mem_children hp)
  have summary := (writes_line "Summary:").bind (writes_writeCounts (ofTotals c.total)).nested
  have details := (writes_line "Details:").bind children.nested
  have whole := (writes_line d.header).bind (summary.bind details)
  rw [writeCensus_eq, lines_root]
  simpa using whole

/-- The outline is the header, the positive totals and a line for each element of the tree, which
stands as deep as there are elements above it, with the positive counts of the element below it. At
the end the level is where it began. -/
theorem outline_mirrors (c : Census) (d : Metadata) :
    (c.outline d).lines.toList =
      (⟨0, d.header⟩ :: ⟨0, "Summary:"⟩ :: deeper 1 (positiveLines (ofTotals c.total)) ++
        ⟨0, "Details:"⟩ :: ((root c).lineages []).tail.flatMap entry).map (·.writtenAt 0) ∧
    (c.outline d).level = 0 ∧
    c.report d .text = "\n".intercalate (c.outline d).lines.toList ++ "\n" ∧
    ((root c).lineages []).map (·.1) = (root c).nodes ∧
    ∀ l ∈ (root c).lineages [],
      (l.1 :: l.2).IsChain (fun p q => p ∈ q.children) ∧ [root c] <:+ (l.1 :: l.2) := by
  have written := writes_writeCensus c d .empty
  have root : (MetricsPart.root c).lines =
      ⟨0, "Details:"⟩ :: ((MetricsPart.root c).lineages []).tail.flatMap entry := by
    rw [MetricsPart.lines, lineages_eq, List.flatMap_cons, List.tail_cons]
    rfl
  refine ⟨?_, ?_, rfl, parts_lineages [] _, chain_lineages (List.isChain_singleton _)⟩
  · rw [outline, written, root]
    simp [Outline.empty]
  · rw [outline, written]
    rfl

example : (nestedCensus.outline ⟨none, some "1"⟩).lines.toList.drop 12 =
    ["Details:", "  module-info.java", "    module m", "      1 requires", "  package p",
      "    1 block comments on 1 lines, total length 2", "    A.java", "      enum A",
      "        1 JavaDoc comments on 3 lines, total length 20", "        static_field x",
      "          2 line comments, total length 9", "          1 statements",
      "        static_method f", "          5 statements", "          class L",
      "            1 line comments, total length 4", "          class L",
      "            1 line comments, total length 4", "        class L",
      "          1 line comments, total length 4"] := by
  decide +kernel

end Census

end JavaCensus
