import JavaCensus.Proofs.Calls

/-!
# Sharded collection

Units can be collected by several collectors whose censuses are merged afterwards. Merged in the
order of the shards they give the census of a single collector; merged in any order they give its
totals.
-/
namespace JavaCensus

/-! ## Packages -/

/-- Updates of two packages can change places if the first package is there already. -/
theorem updatePackage_comm {f g : Package → Package} (keepF : ∀ p, (f p).name = p.name)
    (keepG : ∀ p, (g p).name = p.name) {a b : String} (ne : a ≠ b) {ps : List Package}
    (known : a ∈ ps.map (·.name)) :
    updatePackage b g (updatePackage a f ps) = updatePackage a f (updatePackage b g ps) := by
  induction ps with
  | nil => cases known
  | cons p ps ih =>
    by_cases first : p.name = a
    · simp [updatePackage, first, keepF, ne]
    · have known : a ∈ ps.map (·.name) := by
        rcases List.mem_cons.1 known with same | known
        · exact absurd same.symm first
        · exact known
      by_cases second : p.name = b
      · simp [updatePackage, second, keepG, Ne.symm ne]
      · simp [updatePackage, first, second, ih known]

/-- Two updates of one package are one update. -/
theorem updatePackage_updatePackage {f g : Package → Package} (keep : ∀ p, (f p).name = p.name)
    (name : String) (ps : List Package) :
    updatePackage name g (updatePackage name f ps) = updatePackage name (fun p => g (f p)) ps := by
  induction ps with
  | nil => simp [updatePackage, keep]
  | cons p ps ih => by_cases named : p.name = name <;> simp [updatePackage, named, keep, ih]

/-- The package with more comments and units. -/
def PackageElement.extend (comments : CommentCounts) (units : List (UnitElement CommentCounts))
    (p : Package) : Package :=
  ⟨p.name, p.comments + comments, p.units ++ units⟩

theorem PackageElement.name_extend (comments : CommentCounts)
    (units : List (UnitElement CommentCounts)) (p : Package) :
    (p.extend comments units).name = p.name :=
  rfl

namespace Census

@[ext]
theorem ext {c d : Census} (packages : c.packages = d.packages)
    (modularUnits : c.modularUnits = d.modularUnits) : c = d := by
  cases c
  cases d
  cases packages
  cases modularUnits
  rfl

variable {name : String} {comments : CommentCounts} {units : List (UnitElement CommentCounts)}

theorem packages_extendPackage (c : Census) :
    (c.extendPackage name comments units).packages =
      updatePackage name (.extend comments units) c.packages :=
  rfl

theorem packageNames_extendPackage (c : Census) :
    (c.extendPackage name comments units).packageNames =
      if name ∈ c.packageNames then c.packageNames else c.packageNames ++ [name] :=
  names_updatePackage (PackageElement.name_extend comments units) c.packages

theorem mem_packageNames_extendPackage {c : Census} {other : String} :
    other ∈ (c.extendPackage name comments units).packageNames ↔
      other ∈ c.packageNames ∨ other = name := by
  rw [packageNames_extendPackage]
  split
  · rename_i known
    exact ⟨.inl, fun h => h.elim id fun same => same ▸ known⟩
  · rw [List.mem_append, List.mem_singleton]

theorem extendPackage_comm {c : Census} {other : String} {moreComments : CommentCounts}
    {moreUnits : List (UnitElement CommentCounts)} (ne : name ≠ other)
    (known : name ∈ c.packageNames) :
    (c.extendPackage name comments units).extendPackage other moreComments moreUnits =
      (c.extendPackage other moreComments moreUnits).extendPackage name comments units :=
  ext (updatePackage_comm (PackageElement.name_extend comments units)
    (PackageElement.name_extend moreComments moreUnits) ne known) rfl

theorem extendPackage_extendPackage (c : Census) (moreComments : CommentCounts)
    (moreUnits : List (UnitElement CommentCounts)) :
    (c.extendPackage name comments units).extendPackage name moreComments moreUnits =
      c.extendPackage name (comments + moreComments) (units ++ moreUnits) := by
  refine ext ?_ rfl
  simp only [packages_extendPackage]
  rw [updatePackage_updatePackage (PackageElement.name_extend comments units)]
  simp only [PackageElement.extend, CommentCounts.add_assoc, List.append_assoc]
  rfl

/-- Takes over packages one by one, as `merge` does. -/
def takeOver (c : Census) (ps : List Package) : Census :=
  ps.foldl (fun c p => c.extendPackage p.name p.comments p.units) c

theorem takeOver_cons (c : Census) (p : Package) (ps : List Package) :
    c.takeOver (p :: ps) = (c.extendPackage p.name p.comments p.units).takeOver ps :=
  rfl

/-- A package that is known can be extended before or after others are taken over. -/
theorem takeOver_extendPackage {c : Census} (known : name ∈ c.packageNames) {ps : List Package}
    (absent : name ∉ ps.map (·.name)) :
    (c.takeOver ps).extendPackage name comments units =
      (c.extendPackage name comments units).takeOver ps := by
  induction ps generalizing c with
  | nil => rfl
  | cons p ps ih =>
    rw [List.map_cons, List.mem_cons, not_or] at absent
    rw [takeOver_cons, takeOver_cons,
      ih (mem_packageNames_extendPackage.2 (.inl known)) absent.2,
      extendPackage_comm absent.1 known]

variable (name comments units) in
/-- Extending a package after it is taken over is taking over the extended one. -/
theorem takeOver_updatePackage (c : Census) {ps : List Package} (nodup : (ps.map (·.name)).Nodup) :
    c.takeOver (updatePackage name (.extend comments units) ps) =
      (c.takeOver ps).extendPackage name comments units := by
  induction ps generalizing c with
  | nil =>
    have new : (0 : CommentCounts) + comments = comments := CommentCounts.zero_add comments
    rw [updatePackage, takeOver_cons, PackageElement.extend, new, List.nil_append]
    rfl
  | cons p ps ih =>
    rw [List.map_cons, List.nodup_cons] at nodup
    by_cases named : p.name = name
    · subst named
      have known : p.name ∈ (c.extendPackage p.name p.comments p.units).packageNames :=
        mem_packageNames_extendPackage.2 (.inr rfl)
      rw [updatePackage, if_pos rfl, takeOver_cons, takeOver_cons,
        takeOver_extendPackage known nodup.1, extendPackage_extendPackage]
      rfl
    · rw [updatePackage, if_neg named, takeOver_cons, takeOver_cons, ih _ nodup.2]

/-! ## Merging -/

theorem merge_empty (c : Census) : c.merge empty = c :=
  ext rfl (List.append_nil _)

/-- A unit can be added before or after merging. -/
theorem merge_addUnit (c d : Census) (u : CollectedUnit CommentCounts) :
    c.merge (d.addUnit u) = (c.merge d).addUnit u := by
  cases u with
  | ordinary u =>
    have taken := takeOver_updatePackage u.package u.packageComments [u.unit] c d.distinct
    exact congrArg (·.addModularUnits d.modularUnits) taken
  | modular u => exact ext rfl (List.append_assoc ..).symm

end Census

namespace Collector

theorem run_append (c : Collector) (calls more : List Call) :
    c.run (calls ++ more) = (c.run calls).run more :=
  List.foldl_append

/-- What a collector adds by its calls is what a new collector collects by them. -/
theorem census_run (c : Collector) (calls : List Call) :
    (c.run calls).census = c.census.merge (empty.run calls).census := by
  induction calls using List.reverseRecOn with
  | nil => exact (Census.merge_empty _).symm
  | append_singleton calls call ih =>
    rw [run_concat, run_concat]
    cases collected : call.collected? with
    | none =>
      rw [(perform_of_not_collected collected _).2, (perform_of_not_collected collected _).2, ih]
    | some u =>
      rw [(perform_of_collected collected _).2, (perform_of_collected collected _).2,
        Census.merge_addUnit, ih]

/-- Shards that are merged in their order into what has been collected before them. -/
theorem foldl_merge_shards (c : Collector) (shards : List (List Call)) :
    (shards.map fun calls => (empty.run calls).census).foldl .merge c.census =
      (c.run shards.flatten).census := by
  induction shards generalizing c with
  | nil => rfl
  | cons calls shards ih =>
    rw [List.map_cons, List.foldl_cons, ← census_run, ih, List.flatten_cons, run_append]

end Collector

/-! ## Totals -/

/-- What a collected unit adds to the totals, a new package left out. -/
def CollectedUnit.contribution : CollectedUnit CommentCounts → Totals
  | .ordinary u => .ofComments u.packageComments + u.unit.total
  | .modular u => u.total

/-- What a call adds to the totals, a new package left out. -/
def Call.contribution (call : Call) : Totals :=
  (call.collected?.map (·.contribution)).getD 0

namespace Census

/-- The totals of a census, its packages themselves left out. -/
def holdings (c : Census) : Totals :=
  (c.modularUnits.map (·.total)).sum + (c.packages.map (·.content)).sum

theorem total_eq (c : Census) :
    c.total = c.holdings + c.packageNames.length • Totals.onePackage := by
  have packages (ps : List Package) : (ps.map (·.total)).sum =
      (ps.map (·.content)).sum + ps.length • Totals.onePackage := by
    induction ps with
    | nil => rfl
    | cons p ps ih =>
      rw [List.map_cons, List.map_cons, List.sum_cons, List.sum_cons, ih, PackageElement.total,
        List.length_cons, succ_nsmul]
      abel
  rw [total, content, zero_add, Totals.sum_eq, List.sum_append, packages, holdings, packageNames,
    List.length_map, add_assoc]

theorem holdings_extendPackage (c : Census) (name : String) (comments : CommentCounts)
    (units : List (UnitElement CommentCounts)) :
    (c.extendPackage name comments units).holdings =
      c.holdings + (.ofComments comments + (units.map (·.total)).sum) := by
  rw [holdings, extendPackage,
    content_updatePackage fun p => PackageElement.content_extend p comments units, ← add_assoc]
  rfl

theorem holdings_addModularUnits (c : Census) (us : List ModularUnit) :
    (c.addModularUnits us).holdings = c.holdings + (us.map (·.total)).sum := by
  simp only [holdings, addModularUnits, List.map_append, List.sum_append]
  exact add_right_comm _ _ _

theorem holdings_addUnit (c : Census) (u : CollectedUnit CommentCounts) :
    (c.addUnit u).holdings = c.holdings + u.contribution := by
  cases u with
  | ordinary u =>
    rw [addUnit, holdings_extendPackage, List.map_singleton, List.sum_singleton]
    rfl
  | modular u =>
    rw [addUnit, holdings_addModularUnits, List.map_singleton, List.sum_singleton]
    rfl

end Census

namespace Collector

theorem holdings_run (calls : List Call) :
    (empty.run calls).census.holdings = (calls.map (·.contribution)).sum := by
  induction calls using List.reverseRecOn with
  | nil => rfl
  | append_singleton calls call ih =>
    rw [run_concat, List.map_append, List.sum_append, List.map_singleton, List.sum_singleton]
    cases collected : call.collected? with
    | none =>
      rw [(perform_of_not_collected collected _).2, ih, Call.contribution, collected]
      exact (add_zero _).symm
    | some u =>
      rw [(perform_of_collected collected _).2, Census.holdings_addUnit, ih, Call.contribution,
        collected]
      rfl

theorem packageNames_run (calls : List Call) : (empty.run calls).census.packageNames =
    distinct ((calls.filter (·.collected?.isSome)).filterMap (·.package?)) := by
  rw [← run_successes, successes_eq]
  exact (run_holds fun call hcall => (List.mem_filter.1 hcall).2).packageNames

/-- The totals do not depend on the order of the calls. -/
theorem total_run_perm {calls more : List Call} (h : calls.Perm more) :
    (empty.run calls).census.total = (empty.run more).census.total := by
  have names : (empty.run calls).census.packageNames.Perm (empty.run more).census.packageNames := by
    refine (List.perm_ext_iff_of_nodup (Census.distinct _) (Census.distinct _)).2 fun name => ?_
    show name ∈ (empty.run calls).census.packageNames ↔ name ∈ (empty.run more).census.packageNames
    rw [packageNames_run, packageNames_run, mem_distinct, mem_distinct]
    exact ((h.filter _).filterMap _).mem_iff
  rw [Census.total_eq, Census.total_eq, holdings_run, holdings_run, names.length_eq,
    (h.map _).sum_eq]

end Collector

/-! ## Plans -/

/-- How units are spread over collectors, and in which order the censuses take over each other. -/
inductive MergePlan where
  | shard (calls : List Call)
  | merge (target source : MergePlan)

namespace MergePlan

def calls : MergePlan → List Call
  | shard calls => calls
  | merge target source => target.calls ++ source.calls

def census : MergePlan → Census
  | shard calls => (Collector.empty.run calls).census
  | merge target source => target.census.merge source.census

/-- However merging is bracketed, the census is that of the calls in their order. -/
theorem census_eq (plan : MergePlan) : plan.census = (Collector.empty.run plan.calls).census := by
  induction plan with
  | shard calls => rfl
  | merge target source ihTarget ihSource =>
    rw [census, calls, ihTarget, ihSource, Collector.run_append, ← Collector.census_run]

end MergePlan

/-- Units that are collected in consecutive shards and merged in the order of the shards, into an
empty census or into that of the first shard, give the census that one collector gives. Whichever
shards the units are collected in, and in whichever order the censuses are merged, the totals are
those of one collector. -/
theorem Collector.census_of_shards (calls : List Call) :
    (∀ shards : List (List Call), shards.flatten = calls →
      (shards.map fun shard => (empty.run shard).census).foldl .merge .empty =
        (empty.run calls).census) ∧
    (∀ (first : List Call) (shards : List (List Call)), (first :: shards).flatten = calls →
      (shards.map fun shard => (empty.run shard).census).foldl .merge (empty.run first).census =
        (empty.run calls).census) ∧
    ∀ plan : MergePlan, plan.calls.Perm calls →
      plan.census.total = (empty.run calls).census.total := by
  refine ⟨?_, ?_, fun plan h => ?_⟩
  · rintro shards rfl
    exact foldl_merge_shards empty shards
  · rintro first shards rfl
    rw [foldl_merge_shards (empty.run first), List.flatten_cons, run_append]
  · rw [plan.census_eq, total_run_perm h]

end JavaCensus
