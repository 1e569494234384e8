import JavaCensus.Proofs.Conservation

/-!
# Calls of a collector

A collector is called again and again, for sources and for trees that have been read. Whether a call
succeeds, and what it adds, does not depend on the calls before it; a call that fails adds nothing.
So a collector holds what its successful calls have collected, each package in the order of the
calls.
-/
namespace JavaCensus

open Attribution

/-- A call hands over a source to be read, or a tree that has been read. -/
inductive Call where
  | source (level : LanguageLevel) (preview : Bool) (name : String) (text : SourceText)
      (parse : Parse)
  | tree (name : String) (root : Node)

namespace Node

/-- The package that a unit without a module is part of. -/
def package? (n : Node) : Option String :=
  match n.construct with
  | .compilationUnit package _ _ none => (packageName package).toOption
  | _ => none

def hasModule (n : Node) : Bool :=
  match n.construct with
  | .compilationUnit _ _ _ module => module.isSome
  | _ => false

/-- What collecting a tree adds to a census, if it succeeds. -/
def collectedAs (n : Node) (name : String) : Option (CollectedUnit CommentCounts) :=
  if name = "" then none
  else ((collectUnit n name).run.run .empty : Except Error _ × Ledger).1.toOption.map
    (·.map .ofComments)

end Node

namespace Call

def name : Call → String
  | source _ _ name _ _ | tree name _ => name

/-- The tree that is collected, if the source can be read. -/
def tree? : Call → Option Node
  | source level preview name text parse =>
    (readUnit name level preview text parse).toOption.map (·.unit)
  | tree _ n => some n

def package? (call : Call) : Option String :=
  call.tree?.bind (·.package?)

def hasModule (call : Call) : Bool :=
  call.tree?.any (·.hasModule)

def isTypeless (call : Call) : Bool :=
  call.tree?.any (·.typeCount == 0)

/-- What a call adds to a census, if it succeeds. -/
def collected? (call : Call) : Option (CollectedUnit CommentCounts) :=
  call.tree?.bind (·.collectedAs call.name)

/-- The unit that a call adds to its package. -/
def unit? (call : Call) : Option (UnitElement CommentCounts) :=
  match call.collected? with
  | some (.ordinary u) => some u.unit
  | _ => none

/-- What a call adds to the comments of its package. -/
def packageComments (call : Call) : CommentCounts :=
  match call.collected? with
  | some (.ordinary u) => u.packageComments
  | _ => 0

def modularUnit? (call : Call) : Option ModularUnit :=
  match call.collected? with
  | some (.modular u) => some u
  | _ => none

end Call

namespace Collector

def perform (c : Collector) : Call → Outcome
  | .source level preview name text parse => c.collect level preview name text parse
  | .tree name tree => c.collectUnit name tree

def run (c : Collector) (calls : List Call) : Collector :=
  calls.foldl (fun c call => (c.perform call).collector) c

/-- The calls of a run that succeed, each from the state that the calls before it leave. -/
def successes (c : Collector) : List Call → List Call
  | [] => []
  | call :: calls =>
    let outcome := c.perform call
    let rest := outcome.collector.successes calls
    if outcome.result.isOk then call :: rest else rest

end Collector

/-- The package holds what the calls have collected for it. -/
structure PackageElement.Holds (p : Package) (calls : List Call) : Prop where
  units : p.units = (calls.filter (·.package? = some p.name)).filterMap (·.unit?)
  names : p.units.map (·.name.text) = (calls.filter (·.package? = some p.name)).map (·.name)
  comments : p.comments = (((calls.filter (·.package? = some p.name)).filter (·.isTypeless)).map
    (·.packageComments)).sum

namespace Collector

/-- The collector holds what the calls have collected, and nothing else. -/
structure Holds (c : Collector) (calls : List Call) : Prop where
  units : c.units = calls.length
  nodup : c.census.packageNames.Nodup
  packageNames : c.census.packageNames = distinct (calls.filterMap (·.package?))
  packages : ∀ p ∈ c.census.packages, p.Holds calls
  modularUnits : c.census.modularUnits = calls.filterMap (·.modularUnit?)
  modularNames : c.census.modularUnits.map (·.name.text) =
    (calls.filter (·.hasModule)).map (·.name)

/-! ## One call -/

theorem collectUnit_outcome (c : Collector) (name : String) (tree : Node) :
    match tree.collectedAs name with
    | some u => (c.collectUnit name tree).result = .ok () ∧
        (c.collectUnit name tree).collector = ⟨c.census.addUnit u, c.units + 1⟩
    | none => (c.collectUnit name tree).result.isOk = false ∧
        (c.collectUnit name tree).collector = c := by
  unfold Node.collectedAs collectUnit
  by_cases empty : name = ""
  · rw [if_pos empty, if_pos empty]
    exact ⟨rfl, rfl⟩
  · rw [if_neg empty, if_neg empty]
    generalize ((JavaCensus.collectUnit tree name).run.run Ledger.empty :
      Except Error (CollectedUnit (List Comment)) × Ledger) = run
    rcases run with ⟨e | u, ledger⟩
    · exact ⟨rfl, rfl⟩
    · exact ⟨rfl, rfl⟩

/-- What a call does to a collector follows from what the call itself collects. -/
theorem perform_outcome (c : Collector) (call : Call) :
    match call.collected? with
    | some u => (c.perform call).result = .ok () ∧
        (c.perform call).collector = ⟨c.census.addUnit u, c.units + 1⟩
    | none => (c.perform call).result.isOk = false ∧ (c.perform call).collector = c := by
  cases call with
  | tree name tree => exact c.collectUnit_outcome name tree
  | source level preview name text parse =>
    cases hread : readUnit name level preview text parse with
    | error e =>
      have performed : c.perform (.source level preview name text parse) = ⟨c, [], .error e⟩ := by
        rw [perform, collect, hread]
      have unread : (Call.source level preview name text parse).collected? = none := by
        rw [Call.collected?, Call.tree?, hread]
        rfl
      rw [performed, unread]
      exact ⟨rfl, rfl⟩
    | ok u =>
      have performed : c.perform (.source level preview name text parse) =
          { c.collectUnit name u.unit with
            log := u.logRecord name :: (c.collectUnit name u.unit).log } := by
        rw [perform, collect, hread]
      have read : (Call.source level preview name text parse).collected? =
          u.unit.collectedAs name := by
        rw [Call.collected?, Call.tree?, hread]
        rfl
      rw [performed, read]
      exact c.collectUnit_outcome name u.unit

theorem perform_of_collected {call : Call} {u : CollectedUnit CommentCounts}
    (h : call.collected? = some u) (c : Collector) : (c.perform call).result = .ok () ∧
      (c.perform call).collector = ⟨c.census.addUnit u, c.units + 1⟩ := by
  have outcome := c.perform_outcome call
  rwa [h] at outcome

theorem perform_of_not_collected {call : Call} (h : call.collected? = none) (c : Collector) :
    (c.perform call).result.isOk = false ∧ (c.perform call).collector = c := by
  have outcome := c.perform_outcome call
  rwa [h] at outcome

/-- A call that fails leaves the collector as it is. -/
theorem collector_of_failure {c : Collector} {call : Call}
    (h : (c.perform call).result.isOk = false) : (c.perform call).collector = c := by
  cases hcall : call.collected? with
  | none => exact (perform_of_not_collected hcall c).2
  | some u =>
    rw [(perform_of_collected hcall c).1] at h
    cases h

/-! ## Runs -/

theorem run_cons (c : Collector) (call : Call) (calls : List Call) :
    c.run (call :: calls) = (c.perform call).collector.run calls :=
  rfl

theorem run_concat (c : Collector) (calls : List Call) (call : Call) :
    c.run (calls ++ [call]) = ((c.run calls).perform call).collector := by
  rw [run, run, List.foldl_append]
  rfl

/-- The calls that succeed are those that collect something, whatever the calls before them. -/
theorem successes_eq (c : Collector) (calls : List Call) :
    c.successes calls = calls.filter (·.collected?.isSome) := by
  induction calls generalizing c with
  | nil => rfl
  | cons call calls ih =>
    rw [successes, ih, List.filter_cons]
    cases hcall : call.collected? with
    | none =>
      rw [(perform_of_not_collected hcall c).1]
      rfl
    | some u =>
      rw [(perform_of_collected hcall c).1]
      rfl

/-- A run does what the run of its successful calls does. -/
theorem run_successes (c : Collector) (calls : List Call) :
    c.run (c.successes calls) = c.run calls := by
  rw [successes_eq]
  induction calls generalizing c with
  | nil => rfl
  | cons call calls ih =>
    rw [List.filter_cons, run_cons]
    cases hcall : call.collected? with
    | none =>
      rw [(perform_of_not_collected hcall c).2]
      exact ih c
    | some u => exact ih _

end Collector

/-! ## What a call collects -/

namespace Call

variable {call : Call}

theorem returns_of_collected {u : CollectedUnit CommentCounts} (h : call.collected? = some u) :
    ∃ tree v ledger, call.tree? = some tree ∧
      (collectUnit tree call.name).Returns .empty v ledger ∧ u = v.map .ofComments := by
  obtain ⟨tree, htree, h⟩ := Option.bind_eq_some_iff.1 h
  unfold Node.collectedAs at h
  split at h
  · cases h
  · obtain ⟨v, hv, rfl⟩ := Option.map_eq_some_iff.1 h
    cases hrun : ((collectUnit tree call.name).run.run Ledger.empty :
      Except Error (CollectedUnit (List Comment)) × Ledger) with
    | mk result ledger =>
      rw [hrun] at hv
      cases result with
      | error e => cases hv
      | ok w =>
        cases hv
        exact ⟨tree, v, ledger, htree, hrun, rfl⟩

theorem forPackage_eq_nil {n : Node} {package : Option Node} {forUnit forPackage : List Comment}
    {l m : Ledger}
    (h : (claimPackageComments n package true).Returns l (forUnit, forPackage) m) :
    forPackage = [] := by
  cases package with
  | none =>
    obtain ⟨h, -⟩ := returns_pure.1 h
    cases h
    rfl
  | some p =>
    obtain ⟨own, _, -, h⟩ := returns_bind.1 h
    obtain ⟨h, -⟩ := returns_pure.1 h
    cases h
    rfl

theorem of_ordinary {u : OrdinaryUnit CommentCounts} (h : call.collected? = some (.ordinary u)) :
    call.package? = some u.package ∧ u.unit.name.text = call.name ∧ call.hasModule = false ∧
      (call.isTypeless = false → u.packageComments = 0) := by
  obtain ⟨tree, v, ledger, htree, hv, hu⟩ := returns_of_collected h
  rcases collectUnit_returns hv with ⟨w, hw, rfl⟩ | ⟨w, -, rfl⟩
  · cases hu
    obtain ⟨package, imports, types, element, elements, _, packageText, forUnit, forPackage, _,
      rest, hn, helement, -, hpackage, hheld, -, rfl⟩ := collectOrdinaryUnit_returns hw
    refine ⟨?_, ElementName.text_of helement, ?_, fun typed => ?_⟩
    · simp [package?, htree, Node.package?, hn, hpackage, Except.toOption]
    · simp [hasModule, htree, Node.hasModule, hn]
    · have typed : types.isEmpty = false := by
        simpa [isTypeless, htree, Node.typeCount, hn] using typed
      rw [typed] at hheld
      rw [forPackage_eq_nil hheld]
      rfl
  · cases hu

theorem of_modular {u : ModularUnit} (h : call.collected? = some (.modular u)) :
    call.package? = none ∧ u.name.text = call.name ∧ call.hasModule = true := by
  obtain ⟨tree, v, ledger, htree, hv, hu⟩ := returns_of_collected h
  rcases collectUnit_returns hv with ⟨w, -, rfl⟩ | ⟨w, hw, rfl⟩
  · cases hu
  · cases hu
    obtain ⟨package, imports, types, declaration, module, _, element, rest, hn, -, helement, -,
      rfl⟩ := collectModularUnit_returns hw
    refine ⟨?_, ElementName.text_of helement, ?_⟩
    · simp [package?, htree, Node.package?, hn]
    · simp [hasModule, htree, Node.hasModule, hn]

end Call

/-! ## Packages -/

theorem mem_distinct {α : Type} [DecidableEq α] {x : α} {xs : List α} :
    x ∈ distinct xs ↔ x ∈ xs := by
  induction xs with
  | nil => rfl
  | cons y xs ih =>
    simp only [distinct, List.mem_cons, List.mem_filter, ih, decide_eq_true_eq]
    tauto

/-- What comes last is new, or it has come before. -/
theorem distinct_concat {α : Type} [DecidableEq α] (xs : List α) (x : α) :
    distinct (xs ++ [x]) = if x ∈ distinct xs then distinct xs else distinct xs ++ [x] := by
  induction xs with
  | nil => rfl
  | cons y xs ih =>
    rw [List.cons_append, distinct, ih, distinct]
    by_cases same : x = y
    · subst same
      by_cases old : x ∈ distinct xs <;> simp [old]
    · by_cases old : x ∈ distinct xs <;> simp [old, same]

/-- After an update a package is as it was, or it is the updated one, which may be new. -/
theorem mem_updatePackage {name : String} {f : Package → Package} {ps : List Package} {p : Package}
    (nodup : (ps.map (·.name)).Nodup) (h : p ∈ updatePackage name f ps) :
    (p ∈ ps ∧ p.name ≠ name) ∨ (∃ q ∈ ps, q.name = name ∧ p = f q) ∨
      (name ∉ ps.map (·.name) ∧ p = f ⟨name, 0, []⟩) := by
  induction ps with
  | nil => exact .inr (.inr ⟨List.not_mem_nil, List.mem_singleton.1 h⟩)
  | cons q ps ih =>
    rw [List.map_cons, List.nodup_cons] at nodup
    rw [updatePackage] at h
    by_cases named : q.name = name
    · rw [if_pos named] at h
      rcases List.mem_cons.1 h with rfl | h
      · exact .inr (.inl ⟨q, List.mem_cons_self .., named, rfl⟩)
      · refine .inl ⟨List.mem_cons_of_mem _ h, fun other => nodup.1 ?_⟩
        rw [named, ← other]
        exact List.mem_map_of_mem h
    · rw [if_neg named] at h
      rcases List.mem_cons.1 h with rfl | h
      · exact .inl ⟨List.mem_cons_self .., named⟩
      · rcases ih nodup.2 h with ⟨hp, other⟩ | ⟨r, hr, same, rfl⟩ | ⟨unseen, rfl⟩
        · exact .inl ⟨List.mem_cons_of_mem _ hp, other⟩
        · exact .inr (.inl ⟨r, List.mem_cons_of_mem _ hr, same, rfl⟩)
        · refine .inr (.inr ⟨fun seen => ?_, rfl⟩)
          rcases List.mem_cons.1 seen with rfl | seen
          · exact named rfl
          · exact unseen seen

namespace PackageElement.Holds

variable {p : Package} {calls : List Call} {call : Call}

theorem new {name : String} (unseen : name ∉ calls.filterMap (·.package?)) :
    Holds ⟨name, 0, []⟩ calls := by
  have none : calls.filter (·.package? = some name) = [] := by
    rw [List.filter_eq_nil_iff]
    intro call hcall seen
    exact unseen (List.mem_filterMap.2 ⟨call, hcall, by simpa using seen⟩)
  refine ⟨?_, ?_, ?_⟩ <;> rw [none] <;> rfl

theorem concat_other (h : p.Holds calls) (other : call.package? ≠ some p.name) :
    p.Holds (calls ++ [call]) := by
  have same : (calls ++ [call]).filter (·.package? = some p.name) =
      calls.filter (·.package? = some p.name) := by
    rw [List.filter_append, List.filter_singleton, decide_eq_false other]
    exact List.append_nil _
  refine ⟨?_, ?_, ?_⟩ <;> rw [same]
  · exact h.units
  · exact h.names
  · exact h.comments

/-- A unit and its package comments come after those that are there. -/
theorem concat {u : OrdinaryUnit CommentCounts} (h : p.Holds calls)
    (hcall : call.collected? = some (.ordinary u)) (same : u.package = p.name) :
    Holds ⟨p.name, p.comments + u.packageComments, p.units ++ [u.unit]⟩ (calls ++ [call]) := by
  obtain ⟨package, named, -, typed⟩ := Call.of_ordinary hcall
  have unit : call.unit? = some u.unit := by rw [Call.unit?, hcall]
  have comments : call.packageComments = u.packageComments := by rw [Call.packageComments, hcall]
  have last : (calls ++ [call]).filter (·.package? = some p.name) =
      calls.filter (·.package? = some p.name) ++ [call] := by
    rw [List.filter_append, List.filter_singleton, decide_eq_true (same ▸ package)]
    rfl
  refine ⟨?_, ?_, ?_⟩ <;> rw [last]
  · rw [List.filterMap_append, ← h.units]
    simp [unit]
  · rw [List.map_append, List.map_append, h.names]
    simp [named]
  · rw [List.filter_append, List.map_append, List.sum_append, ← h.comments]
    cases typeless : call.isTypeless with
    | true => simp [typeless, comments]
    | false => simp [typeless, typed typeless]

end PackageElement.Holds

/-! ## The collector after a run -/

namespace Collector

variable {c : Collector} {calls : List Call} {call : Call}

theorem Holds.concat_ordinary {u : OrdinaryUnit CommentCounts} (h : c.Holds calls)
    (hcall : call.collected? = some (.ordinary u)) :
    Holds ⟨c.census.addUnit (.ordinary u), c.units + 1⟩ (calls ++ [call]) := by
  obtain ⟨package, named, moduleless, -⟩ := Call.of_ordinary hcall
  let extend : Package → Package :=
    fun p => ⟨p.name, p.comments + u.packageComments, p.units ++ [u.unit]⟩
  have keeps : ∀ p, (extend p).name = p.name := fun _ => rfl
  have names : (updatePackage u.package extend c.census.packages).map (·.name) = _ :=
    names_updatePackage keeps c.census.packages
  refine ⟨?_, Census.distinct _, ?_, fun p hp => ?_, ?_, ?_⟩
  · rw [List.length_append, ← h.units]
    rfl
  · rw [List.filterMap_append, List.filterMap_cons_some package, List.filterMap_nil,
      distinct_concat, ← h.packageNames]
    exact names
  · rcases mem_updatePackage c.census.distinct hp with ⟨hp, other⟩ | ⟨q, hq, same, rfl⟩ |
      ⟨unseen, rfl⟩
    · refine (h.packages p hp).concat_other ?_
      rw [package]
      exact fun same => other (Option.some.inj same).symm
    · exact (h.packages q hq).concat hcall same.symm
    · refine (PackageElement.Holds.new ?_).concat hcall rfl
      rw [← mem_distinct, ← h.packageNames]
      exact unseen
  · have modular : call.modularUnit? = none := by rw [Call.modularUnit?, hcall]
    rw [List.filterMap_append, List.filterMap_cons_none modular, List.filterMap_nil,
      List.append_nil]
    exact h.modularUnits
  · rw [List.filter_append, List.filter_singleton, moduleless]
    simpa [Census.addUnit, Census.extendPackage] using h.modularNames

theorem Holds.concat_modular {u : ModularUnit} (h : c.Holds calls)
    (hcall : call.collected? = some (.modular u)) :
    Holds ⟨c.census.addUnit (.modular u), c.units + 1⟩ (calls ++ [call]) := by
  obtain ⟨package, named, hasModule⟩ := Call.of_modular hcall
  refine ⟨?_, Census.distinct _, ?_, fun p hp => ?_, ?_, ?_⟩
  · rw [List.length_append, ← h.units]
    rfl
  · rw [List.filterMap_append, List.filterMap_cons_none package, List.filterMap_nil,
      List.append_nil]
    exact h.packageNames
  · exact (h.packages p hp).concat_other (by simp [package])
  · have modular : call.modularUnit? = some u := by rw [Call.modularUnit?, hcall]
    rw [List.filterMap_append, ← h.modularUnits, List.filterMap_cons_some modular]
    rfl
  · rw [List.filter_append, List.filter_singleton, hasModule, List.map_append, ← h.modularNames]
    simp [Census.addUnit, Census.addModularUnits, named]

/-- A collector that starts empty holds what its calls collect. -/
theorem run_holds (collected : ∀ call ∈ calls, call.collected?.isSome) :
    (empty.run calls).Holds calls := by
  induction calls using List.reverseRecOn with
  | nil => exact ⟨rfl, .nil, rfl, List.forall_mem_nil _, rfl, rfl⟩
  | append_singleton calls call ih =>
    have before := ih fun call hcall => collected call (List.mem_append_left _ hcall)
    obtain ⟨u, hcall⟩ := Option.isSome_iff_exists.1
      (collected call (List.mem_append_right _ (List.mem_singleton_self _)))
    rw [run_concat, (perform_of_collected hcall _).2]
    cases u with
    | ordinary u => exact before.concat_ordinary hcall
    | modular u => exact before.concat_modular hcall

/-- A call that fails changes nothing, so that a run does what its successful calls do alone. The
collector then holds these calls: as many units, each package at the place of its first unit and
with its units in the order of the calls, and the modular units in that order too. -/
theorem run_eq_run_of_successes (calls : List Call) :
    (∀ (c : Collector) (call : Call) (e : Error), (c.perform call).result = .error e →
        (c.perform call).collector = c) ∧
      (∀ c : Collector, c.run calls = c.run (c.successes calls)) ∧
      (empty.run calls).Holds (empty.successes calls) := by
  refine ⟨fun c call e failed => ?_, fun c => (c.run_successes calls).symm, ?_⟩
  · exact collector_of_failure (by rw [failed]; rfl)
  · rw [← run_successes, successes_eq]
    exact run_holds fun call hcall => (List.mem_filter.1 hcall).2

end Collector

end JavaCensus
