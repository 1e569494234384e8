import JavaCensus.Proofs.Agreement
import JavaCensus.Proofs.Calls
import JavaCensus.Proofs.Origins

/-!
# Names of packages

A package goes by the text of the name in its declarations, just as it is written there. Where the
identifiers and the points of a name follow each other without gaps, that text is the identifiers
joined by points, so units that declare the same package in this way share one package. A gap or a
comment in one of the names makes two packages of it.
-/
namespace JavaCensus

/-! ## Texts with points -/

namespace Text.Utf8

/-- Within a character no byte is waited for that could be one of its own. -/
def State.Expects : State → Prop
  | .start => True
  | .within _ _ low _ => 0x80 ≤ low

theorem startByte_expects (b : UInt8) : (startByte b).2.Expects := by
  unfold startByte
  dsimp only
  repeat' split
  all_goals first | trivial | exact Nat.le_refl _ | exact (by decide : 0x80 ≤ 0xA0) |
    exact (by decide : 0x80 ≤ 0x90)

/-- A point ends whatever has been read of a character, and reading starts anew after it. -/
theorem scan_append_point {s : State} (h : s.Expects) (xs ys : List UInt8) :
    scan s (xs ++ 46 :: ys) = scan s xs ++ some '.' :: scan .start ys := by
  induction xs generalizing s with
  | nil =>
    cases s with
    | start => rfl
    | within read more low high =>
      have beyond : ¬ (low ≤ (46 : UInt8).toNat ∧ (46 : UInt8).toNat ≤ high) := by
        have : 0x80 ≤ low := h
        have : (46 : UInt8).toNat = 46 := rfl
        omega
      have anew : scan (.within read more low high) (46 :: ys) =
          none :: some '.' :: scan .start ys := by
        rw [scan, if_neg beyond]
        rfl
      exact anew
  | cons b xs ih =>
    cases s with
    | start =>
      rw [List.cons_append, scan, scan]
      dsimp only
      rw [ih (startByte_expects b), List.append_assoc]
    | within read more low high =>
      rw [List.cons_append, scan, scan]
      split
      · split
        · rw [ih (s := .start) trivial, List.cons_append]
        · rw [ih]
          exact Nat.le_refl 0x80
      · simp only [ih (startByte_expects b), List.cons_append, List.append_assoc]

theorem decodeLossy_append_point (xs ys : List UInt8) :
    decodeLossy (xs ++ 46 :: ys) = decodeLossy xs ++ '.' :: decodeLossy ys := by
  unfold decodeLossy
  rw [scan_append_point (s := .start) trivial, List.map_append, List.map_cons]
  rfl

end Text.Utf8

/-! ## Names without gaps -/

namespace Reading

variable {r : Reading} {t : ParseTree}

/-- The identifiers of a name, in their order. -/
def identifiers (r : Reading) (t : ParseTree) : List String :=
  (t.walk.filter isIdentifier).map r.text

/-- The tree covers an identifier, or a name, a point and an identifier next to each other. -/
inductive Tight (r : Reading) : ParseTree → Prop where
  | single {t : ParseTree} (type : t.type = "identifier") (leaf : t.children = [])
      (forward : t.start ≤ t.stop) : Tight r t
  | joined {t scope point name : ParseTree} (type : t.type = "scoped_identifier")
      (children : t.children = [scope, point, name]) (qualifies : Tight r scope)
      (token : point.type = ".") (leaf : point.children = [])
      (named : name.type = "identifier") (last : name.children = [])
      (first : scope.start = t.start) (after : point.start = scope.stop)
      (byte : r.source.bytes[point.start]? = some 46) (next : name.start = point.start + 1)
      (ends : name.stop = t.stop) (forward : name.start ≤ name.stop) : Tight r t

theorem Tight.forward (h : r.Tight t) : t.start ≤ t.stop := by
  induction h with
  | single _ _ forward => exact forward
  | joined => omega

end Reading

/-- The bytes of a range, when there is a point among them. -/
theorem slice_point {bytes : List UInt8} {start middle stop : Nat} (before : start ≤ middle)
    (after : middle + 1 ≤ stop) (point : bytes[middle]? = some 46) :
    (bytes.drop start).take (stop - start) = (bytes.drop start).take (middle - start) ++
      46 :: (bytes.drop (middle + 1)).take (stop - (middle + 1)) := by
  have parts : bytes.drop middle = 46 :: bytes.drop (middle + 1) := by
    obtain ⟨inside, at'⟩ := List.getElem?_eq_some_iff.1 point
    rw [List.drop_eq_getElem_cons inside, at']
  have lengths : stop - start = (middle - start) + ((stop - (middle + 1)) + 1) := by omega
  rw [lengths, List.take_add, List.drop_drop, Nat.add_sub_cancel' before, parts,
    List.take_succ_cons]

namespace Reading

variable {r : Reading} {t : ParseTree}

theorem identifiers_of_leaf (type : t.type = "identifier") (leaf : t.children = []) :
    r.identifiers t = [r.text t] := by
  rw [identifiers, ParseTree.walk_eq, leaf]
  simp [isIdentifier, type]

theorem identifiers_of_scoped {scope point name : ParseTree} (type : t.type = "scoped_identifier")
    (children : t.children = [scope, point, name]) (token : point.type = ".")
    (leaf : point.children = []) :
    r.identifiers t = r.identifiers scope ++ r.identifiers name := by
  have noPoint : (point.walk.filter isIdentifier) = [] := by
    rw [ParseTree.walk_eq, leaf]
    simp [isIdentifier, token]
  have own : isIdentifier t = false := by simp [isIdentifier, type]
  simp only [identifiers, ParseTree.walk_eq t, children, List.flatMap_cons, List.flatMap_nil,
    List.append_nil, List.filter_cons, own, Bool.false_eq_true, if_false, List.filter_append,
    noPoint, List.nil_append, List.map_append]

theorem Tight.identifiers_ne_nil (h : r.Tight t) : r.identifiers t ≠ [] := by
  induction h with
  | single type leaf =>
    rw [identifiers_of_leaf type leaf]
    exact List.cons_ne_nil _ _
  | joined type children _ token leaf _ _ _ _ _ _ _ _ ih =>
    rw [identifiers_of_scoped type children token leaf]
    exact List.append_ne_nil_of_left_ne_nil ih _

/-- Without gaps, a name reads as its identifiers joined by points. -/
theorem text_of_tight (h : r.Tight t) : r.text t = ".".intercalate (r.identifiers t) := by
  induction h with
  | single type leaf =>
    rw [identifiers_of_leaf type leaf]
    rfl
  | @joined t scope point name type children qualifies token leaf named last first after byte next
      ends forward ih =>
    have slice : (r.source.bytes.drop t.start).take (t.stop - t.start) =
        (r.source.bytes.drop scope.start).take (scope.stop - scope.start) ++
          46 :: (r.source.bytes.drop name.start).take (name.stop - name.start) := by
      rw [← first, ← ends, next, ← after]
      exact slice_point (after ▸ qualifies.forward) (by omega) byte
    have text : r.text t = r.text scope ++ "." ++ r.text name := by
      unfold Reading.text SourceText.text
      rw [slice, Text.Utf8.decodeLossy_append_point]
      simp [String.ofList_append, String.append_assoc]
    rw [identifiers_of_scoped type children token leaf, identifiers_of_leaf named last,
      String.intercalate_append_of_ne_nil qualifies.identifiers_ne_nil (List.cons_ne_nil _ _),
      String.intercalate_singleton, text, ih]

end Reading

/-! ## Packages of units -/

namespace ParseTree

/-- The package declaration that counts: the last one. -/
def packageDeclaration? (root : ParseTree) : Option ParseTree :=
  ((root.namedChildren.filter fun c => !c.isComment).filter
    (·.type == "package_declaration")).getLast?

/-- The name in the package declaration. -/
def packageNameTree? (root : ParseTree) : Option ParseTree :=
  root.packageDeclaration?.bind fun t => t.namedChildren.find? Reading.isName

end ParseTree

namespace Node

theorem package?_eq (n : Node) : n.package? =
    n.unitParts.toOption.bind fun parts =>
      if parts.module.isSome then none else (packageName parts.package).toOption := by
  unfold package? unitParts
  cases n.construct with
  | compilationUnit package imports types module => cases module <;> rfl
  | _ => rfl

theorem package?_stripped (n : Node) : n.stripped.package? = n.package? := by
  rw [package?_eq, package?_eq, recasts_stripped.unitParts]
  cases n.unitParts with
  | error e => rfl
  | ok parts =>
    obtain ⟨package, imports, types, module⟩ := parts
    show (if (module.map stripped).isSome then none
      else (packageName (package.map stripped)).toOption) = _
    rw [Option.isSome_map, recasts_stripped.packageName]
    rfl

end Node

namespace Reading

variable {r : Reading}

theorem package?_of_readsTop {t : ParseTree} {part : TopLevel} (h : r.ReadsTop t part) :
    part.package? = if t.type == "package_declaration" then
      some (r.node t (.packageDeclaration (r.qualifiedName t))) else none := by
  cases h with
  | package type => rw [type]; rfl
  | «import» type => rw [type]; rfl
  | module type => rw [type]; rfl
  | type form =>
    have other : (t.type == "package_declaration") = false := by
      refine beq_eq_false_iff_ne.2 fun type => ?_
      rw [ParseTree.isTypeDeclaration, type] at form
      exact absurd form (by decide)
    rw [other]
    rfl

theorem packages_of_readsTop {parts : List (ParseTree × TopLevel)}
    (h : ∀ p ∈ parts, r.ReadsTop p.1 p.2) :
    (parts.map (·.2)).filterMap TopLevel.package? =
      ((parts.map (·.1)).filter (·.type == "package_declaration")).map fun t =>
        r.node t (.packageDeclaration (r.qualifiedName t)) := by
  induction parts with
  | nil => rfl
  | cons p parts ih =>
    have first := package?_of_readsTop (h p (List.mem_cons_self ..))
    have rest := ih fun q hq => h q (List.mem_cons_of_mem _ hq)
    rw [List.map_cons, List.map_cons, List.filterMap_cons, List.filter_cons, first, rest]
    cases p.1.type == "package_declaration" <;> rfl

/-- A unit without a module is part of the package that its declaration names. -/
theorem package?_unitOf {level : LanguageLevel} {preview : Bool} {parse : Parse} {unit : Node}
    {name : ParseTree} (h : r.unitOf level preview parse = .ok unit)
    (named : parse.root.packageNameTree? = some name) (member : unit.package?.isSome) :
    unit.package? = some (r.text name) := by
  obtain ⟨parts, trees, reads, rfl⟩ := unitOf_reads h
  obtain ⟨t, ht, hname⟩ := Option.bind_eq_some_iff.1 named
  have declared : ((parts.map (·.2)).filterMap TopLevel.package?).getLast? =
      some (r.node t (.packageDeclaration (r.qualifiedName t))) := by
    rw [packages_of_readsTop reads, trees, List.getLast?_map]
    exact congrArg (Option.map _) ht
  have text : r.qualifiedName t = r.text name := by rw [qualifiedName, hname]
  rw [declared] at member ⊢
  cases hmodule : ((parts.map (·.2)).filterMap TopLevel.module?).getLast? with
  | some module =>
    rw [hmodule] at member
    cases member
  | none => exact congrArg some text

end Reading

/-! ## Packages of runs -/

namespace Call

/-- The call hands over a source whose package declaration has the given name. -/
def Declares (call : Call) (r : Reading) (name : ParseTree) : Prop :=
  ∃ level preview parse, call = .source level preview r.unit r.source parse ∧
    parse.root.packageNameTree? = some name

theorem package?_source (level : LanguageLevel) (preview : Bool) (name : String)
    (text : SourceText) (parse : Parse) :
    (Call.source level preview name text parse).package? =
      (readUnit name level preview text parse).toOption.bind (·.unit.package?) :=
  Option.bind_map ..

/-- What an ordinary unit is part of is the package that it names, just as the name is written. -/
theorem Declares.package? {call : Call} {r : Reading} {name : ParseTree}
    {u : OrdinaryUnit CommentCounts} (h : call.Declares r name)
    (collected : call.collected? = some (.ordinary u)) : call.package? = some (r.text name) := by
  obtain ⟨level, preview, parse, rfl, named⟩ := h
  obtain ⟨package, -⟩ := of_ordinary collected
  rw [package?_source] at package ⊢
  obtain ⟨w, read, package⟩ := Option.bind_eq_some_iff.1 package
  rw [read]
  have read := toOption_eq_some.1 read
  obtain ⟨unit, hunit, rfl⟩ := readUnit_eq_ok.1 read
  have placed (cs : List Comment) : (unit.place cs).package? = unit.package? := by
    rw [← Node.package?_stripped, (unit.growsTo_place cs).stripped_same, Node.package?_stripped]
  have member : unit.package?.isSome := by
    rw [← placed]
    exact Option.isSome_of_eq_some package
  exact (placed _).trans (Reading.package?_unitOf hunit named member)

end Call

/-- One package holds the units, in this order, and it is counted once. -/
structure Census.Unites (c : Census) (name : String) (us : List (UnitElement CommentCounts)) :
    Prop where
  once : c.packageNames.count name = 1
  holds : ∃ p ∈ c.packages, p.name = name ∧ us.Sublist p.units

namespace Collector

/-- The units of calls of one package are united in it, in the order of the calls. -/
theorem run_unites {calls chosen : List Call} {name : String} (order : chosen.Sublist calls)
    (any : chosen ≠ []) (package : ∀ call ∈ chosen, call.package? = some name)
    (unit : ∀ call ∈ chosen, call.unit?.isSome) :
    (empty.run calls).census.Unites name (chosen.filterMap (·.unit?)) := by
  have holds : (empty.run calls).Holds (calls.filter (·.collected?.isSome)) := by
    rw [← run_successes, successes_eq]
    exact run_holds fun call hcall => (List.mem_filter.1 hcall).2
  have collected : chosen.filter (·.collected?.isSome) = chosen := by
    refine List.filter_eq_self.2 fun call hcall => ?_
    have unit := unit call hcall
    unfold Call.unit? at unit
    cases hcollected : call.collected? with
    | none =>
      rw [hcollected] at unit
      cases unit
    | some u => rfl
  have order : chosen.Sublist (calls.filter (·.collected?.isSome)) := collected ▸ order.filter _
  have known : name ∈ (empty.run calls).census.packageNames := by
    obtain ⟨call, hcall⟩ := List.exists_mem_of_ne_nil chosen any
    rw [holds.packageNames, mem_distinct]
    exact List.mem_filterMap.2 ⟨call, order.subset hcall, package call hcall⟩
  obtain ⟨p, hp, rfl⟩ := List.mem_map.1 known
  refine ⟨List.count_eq_one_of_mem holds.nodup known, p, hp, rfl, ?_⟩
  have own : chosen.filter (·.package? = some p.name) = chosen :=
    List.filter_eq_self.2 fun call hcall => decide_eq_true (package call hcall)
  rw [(holds.packages p hp).units, ← own]
  exact (order.filter _).filterMap _

/-- Two ordinary units of a run share one package if their declarations are written the same, and
are in two packages if they are not. Names of the same identifiers are written the same if they
are written without gaps. -/
theorem run_packages {calls : List Call} {a b : Call} {r r' : Reading} {x y : ParseTree}
    {u v : OrdinaryUnit CommentCounts} (order : [a, b].Sublist calls) (declaresA : a.Declares r x)
    (declaresB : b.Declares r' y) (collectedA : a.collected? = some (.ordinary u))
    (collectedB : b.collected? = some (.ordinary v)) :
    (r.Tight x → r'.Tight y → r.identifiers x = r'.identifiers y →
        (empty.run calls).census.Unites (r.text x) [u.unit, v.unit]) ∧
      (r.text x = r'.text y →
        (empty.run calls).census.Unites (r.text x) [u.unit, v.unit]) ∧
      (r.text x ≠ r'.text y →
        (empty.run calls).census.Unites (r.text x) [u.unit] ∧
          (empty.run calls).census.Unites (r'.text y) [v.unit]) := by
  have packageA := declaresA.package? collectedA
  have packageB := declaresB.package? collectedB
  have unitA : a.unit? = some u.unit := by rw [Call.unit?, collectedA]
  have unitB : b.unit? = some v.unit := by rw [Call.unit?, collectedB]
  have together (same : r.text x = r'.text y) :
      (empty.run calls).census.Unites (r.text x) [u.unit, v.unit] := by
    have unites : (empty.run calls).census.Unites (r.text x) _ :=
      run_unites order (List.cons_ne_nil _ _) (by simp [packageA, packageB, same])
        (by simp [unitA, unitB])
    simpa [unitA, unitB] using unites
  refine ⟨fun tight tight' same => together ?_, together, fun _ => ⟨?_, ?_⟩⟩
  · rw [Reading.text_of_tight tight, Reading.text_of_tight tight', same]
  · have unites : (empty.run calls).census.Unites (r.text x) _ :=
      run_unites ((List.sublist_append_left [a] [b]).trans order) (List.cons_ne_nil _ _)
        (by simp [packageA]) (by simp [unitA])
    simpa [unitA] using unites
  · have unites : (empty.run calls).census.Unites (r'.text y) _ :=
      run_unites ((List.sublist_append_right [a] [b]).trans order) (List.cons_ne_nil _ _)
        (by simp [packageB]) (by simp [unitB])
    simpa [unitB] using unites

/-! ## Two spellings of a name -/

section Spelling

/-- A name of two identifiers, with the point and the second identifier at the given places. -/
def spelledName (point second : Nat) : ParseTree :=
  ⟨"scoped_identifier", true, false, 8, second + 1, none,
    [⟨"identifier", true, false, 8, 9, some "scope", []⟩,
      ⟨".", false, false, point, point + 1, none, []⟩,
      ⟨"identifier", true, false, second, second + 1, some "name", []⟩]⟩

/-- A source that only declares the package of that name. -/
def spelledParse (point second stop : Nat) : Parse :=
  ⟨⟨"program", true, false, 0, stop, none,
    [⟨"package_declaration", true, false, 0, stop, none,
      [⟨"package", false, false, 0, 7, none, []⟩, spelledName point second,
        ⟨";", false, false, stop - 1, stop, none, []⟩]⟩]⟩, false⟩

def spelledUnit (r : Reading) (point second stop : Nat) : Node :=
  .bare (r.unitSpan (spelledParse point second stop).root) (.compilationUnit
    (some (.bare (r.source.span (spelledParse point second stop).root)
      (.packageDeclaration (r.text (spelledName point second))))) [] [] none)

theorem readUnit_spelledParse (r : Reading) (point second stop : Nat) :
    readUnit r.unit .latest false r.source (spelledParse point second stop) =
      .ok ⟨(spelledUnit r point second stop).place [], []⟩ := by
  have walked : (spelledParse point second stop).root.descendants =
      (spelledParse point second stop).root.descendants := rfl
  -- the walk is by well-founded recursion, which only evaluation opens
  conv_rhs at walked => cbv
  have features : r.checkFeatures .latest false (spelledParse point second stop).root = .ok () := by
    rw [Reading.checkFeatures, walked]
    rfl
  have unit : r.unitOf .latest false (spelledParse point second stop) =
      .ok (spelledUnit r point second stop) := by
    rw [Reading.unitOf, features]
    rfl
  have comments : r.comments (spelledParse point second stop).root = [] := by
    rw [Reading.comments, walked]
    rfl
  refine readUnit_eq_ok.2 ⟨_, unit, ?_⟩
  rw [comments]
  rfl

def tight (unit : String) : Reading :=
  ⟨unit, .ofString "package a.b;"⟩

def loose (unit : String) : Reading :=
  ⟨unit, .ofString "package a . b;"⟩

def tightCall (unit : String) : Call :=
  .source .latest false unit (tight unit).source (spelledParse 9 10 12)

def looseCall (unit : String) : Call :=
  .source .latest false unit (loose unit).source (spelledParse 10 12 14)

theorem tight_spelledName (unit : String) : (tight unit).Tight (spelledName 9 10) :=
  have byte : (SourceText.ofString "package a.b;").bytes[9]? = some 46 := by decide
  .joined rfl rfl (.single rfl rfl (by decide)) rfl rfl rfl rfl rfl rfl byte rfl rfl (by decide)

theorem collected_spelledParse (r : Reading) (point second stop : Nat) :
    (Call.source .latest false r.unit r.source (spelledParse point second stop)).collected? =
      ((spelledUnit r point second stop).place []).collectedAs r.unit :=
  congrArg (fun u => (u.toOption.map (·.unit)).bind (·.collectedAs r.unit))
    (readUnit_spelledParse r point second stop)

theorem collected_tightA : (tightCall "A.java").collected? =
    some (.ordinary ⟨"a.b", ⟨⟨"A.java", by decide⟩, 0, []⟩, 0⟩) :=
  (collected_spelledParse (tight "A.java") 9 10 12).trans (by cbv)

theorem collected_tightB : (tightCall "B.java").collected? =
    some (.ordinary ⟨"a.b", ⟨⟨"B.java", by decide⟩, 0, []⟩, 0⟩) :=
  (collected_spelledParse (tight "B.java") 9 10 12).trans (by cbv)

theorem collected_looseB : (looseCall "B.java").collected? =
    some (.ordinary ⟨"a . b", ⟨⟨"B.java", by decide⟩, 0, []⟩, 0⟩) :=
  (collected_spelledParse (loose "B.java") 10 12 14).trans (by cbv)

/-- Two units that both declare the package `a.b` without gaps share it. -/
theorem run_packages_tight :
    (empty.run [tightCall "A.java", tightCall "B.java"]).census.Unites
      ((tight "A.java").text (spelledName 9 10))
      [⟨⟨"A.java", by decide⟩, 0, []⟩, ⟨⟨"B.java", by decide⟩, 0, []⟩] :=
  (run_packages (r := tight "A.java") (x := spelledName 9 10) (y := spelledName 9 10) (.refl _)
    ⟨_, _, _, rfl, rfl⟩ ⟨_, _, _, rfl, rfl⟩ collected_tightA collected_tightB).1
      (tight_spelledName _) (tight_spelledName "B.java") rfl

/-- One unit declares the package `a.b` and another one `a . b`, which are the same identifiers,
and the two are in packages of their own. -/
theorem run_packages_loose :
    (tightCall "A.java").Declares (tight "A.java") (spelledName 9 10) ∧
      (looseCall "B.java").Declares (loose "B.java") (spelledName 10 12) ∧
      (tight "A.java").identifiers (spelledName 9 10) = ["a", "b"] ∧
      (loose "B.java").identifiers (spelledName 10 12) = ["a", "b"] ∧
      (empty.run [tightCall "A.java", looseCall "B.java"]).census.packages =
        [⟨"a.b", 0, [⟨⟨"A.java", by decide⟩, 0, []⟩]⟩,
          ⟨"a . b", 0, [⟨⟨"B.java", by decide⟩, 0, []⟩]⟩] := by
  refine ⟨⟨_, _, _, rfl, rfl⟩, ⟨_, _, _, rfl, rfl⟩, by cbv, by cbv, ?_⟩
  rw [run_cons, (perform_of_collected collected_tightA empty).2, run_cons,
    (perform_of_collected collected_looseB _).2]
  rfl

end Spelling

end Collector

end JavaCensus
