import JavaCensus.Proofs.Sharding

/-!
# Merging

A census that takes over another one has the totals of both, packages apart: those that both have
become one. Censuses can be merged where they stand, so that each package is read when its turn
comes, and this gives the same also where a census takes over itself and so changes what it reads.
-/
namespace JavaCensus

/-! ## Counts of packages -/

namespace Totals

theorem packages_add (a b : Totals) : (a + b).packages = a.packages + b.packages :=
  rfl

theorem packages_sum_eq_zero {ts : List Totals} (h : ∀ t ∈ ts, t.packages = 0) :
    ts.sum.packages = 0 := by
  induction ts with
  | nil => rfl
  | cons t ts ih =>
    rw [List.sum_cons, packages_add, h t (List.mem_cons_self ..),
      ih fun s hs => h s (List.mem_cons_of_mem _ hs), add_zero]

theorem nsmul_onePackage (k : Nat) : k • onePackage = { zero with packages := k } := by
  induction k with
  | zero => rfl
  | succ k ih =>
    rw [succ_nsmul, ih]
    simp [onePackage, zero, add_def]

end Totals

theorem UnitElement.packages_total (u : UnitElement CommentCounts) : u.total.packages = 0 := by
  have shares : ∀ s ∈ (u.types.flatMap (·.elements)).map (·.share), s.packages = 0 := by
    intro s hs
    obtain ⟨e, _, rfl⟩ := List.mem_map.1 hs
    cases e <;> rfl
  rw [total_eq_sum, Totals.packages_add, Totals.packages_add, Totals.packages_sum_eq_zero shares]
  rfl

theorem PackageElement.packages_content (p : Package) : p.content.packages = 0 := by
  have units : ∀ t ∈ p.units.map (·.total), t.packages = 0 := by
    intro t ht
    obtain ⟨u, _, rfl⟩ := List.mem_map.1 ht
    exact u.packages_total
  rw [content, Totals.sum_eq, Totals.packages_add, Totals.packages_sum_eq_zero units]
  rfl

namespace Census

/-- What a census holds makes no count of packages. -/
theorem packages_holdings (c : Census) : c.holdings.packages = 0 := by
  have modular : ∀ t ∈ c.modularUnits.map (·.total), t.packages = 0 := by
    intro t ht
    obtain ⟨u, _, rfl⟩ := List.mem_map.1 ht
    rfl
  have packages : ∀ t ∈ c.packages.map (·.content), t.packages = 0 := by
    intro t ht
    obtain ⟨p, _, rfl⟩ := List.mem_map.1 ht
    exact p.packages_content
  rw [holdings, Totals.packages_add, Totals.packages_sum_eq_zero modular,
    Totals.packages_sum_eq_zero packages]
  rfl

/-! ## Taking over packages -/

theorem holdings_takeOver (c : Census) (ps : List Package) :
    (c.takeOver ps).holdings = c.holdings + (ps.map (·.content)).sum := by
  induction ps generalizing c with
  | nil => exact (add_zero _).symm
  | cons p ps ih =>
    have content : p.content = .ofComments p.comments + (p.units.map (·.total)).sum := by
      rw [PackageElement.content, Totals.sum_eq]
    rw [takeOver_cons, ih, holdings_extendPackage, ← content, List.map_cons, List.sum_cons,
      add_assoc]

/-- Packages that are taken over come last, those apart that are there already. -/
theorem packageNames_takeOver (c : Census) {ps : List Package} (nodup : (ps.map (·.name)).Nodup) :
    (c.takeOver ps).packageNames =
      c.packageNames ++ (ps.map (·.name)).filter (· ∉ c.packageNames) := by
  induction ps generalizing c with
  | nil => exact (List.append_nil _).symm
  | cons p ps ih =>
    rw [List.map_cons, List.nodup_cons] at nodup
    rw [takeOver_cons, ih _ nodup.2, packageNames_extendPackage, List.map_cons, List.filter_cons]
    by_cases known : p.name ∈ c.packageNames
    · simp [known]
    · have others : (ps.map (·.name)).filter (· ∉ c.packageNames ++ [p.name]) =
          (ps.map (·.name)).filter (· ∉ c.packageNames) := by
        refine List.filter_congr fun name hname => ?_
        have ne : name ≠ p.name := fun same => nodup.1 (same ▸ hname)
        simp [ne]
      rw [if_neg known, List.append_assoc, others]
      simp [known]

/-! ## Merged censuses -/

theorem merge_eq (c d : Census) :
    c.merge d = (c.takeOver d.packages).addModularUnits d.modularUnits :=
  rfl

theorem packageNames_merge (c d : Census) : (c.merge d).packageNames =
    c.packageNames ++ d.packageNames.filter (· ∉ c.packageNames) :=
  c.packageNames_takeOver d.distinct

theorem modularUnits_takeOver (c : Census) (ps : List Package) :
    (c.takeOver ps).modularUnits = c.modularUnits := by
  induction ps generalizing c with
  | nil => rfl
  | cons p ps ih => exact ih _

theorem holdings_merge (c d : Census) : (c.merge d).holdings = c.holdings + d.holdings := by
  have own : d.holdings = (d.modularUnits.map (·.total)).sum + (d.packages.map (·.content)).sum :=
    rfl
  rw [merge_eq, holdings_addModularUnits, holdings_takeOver, own, add_right_comm, add_assoc]

theorem length_packageNames_merge (c d : Census) :
    (c.merge d).packageNames.length = (c.packageNames ++ d.packageNames).toFinset.card := by
  have same : (c.merge d).packageNames.toFinset = (c.packageNames ++ d.packageNames).toFinset := by
    ext name
    rw [packageNames_merge]
    by_cases known : name ∈ c.packageNames <;> simp [known]
  rw [← same]
  exact (List.toFinset_card_of_nodup (c.merge d).distinct).symm

/-- All counters are added up, but packages are counted by their names. -/
theorem total_merge (c d : Census) : (c.merge d).total = { c.total + d.total with
    packages := (c.packageNames ++ d.packageNames).toFinset.card } := by
  have left := c.packages_holdings
  have right := d.packages_holdings
  simp only [total_eq, holdings_merge, length_packageNames_merge, Totals.nsmul_onePackage]
  generalize c.holdings = x at left ⊢
  generalize d.holdings = y at right ⊢
  simp [Totals.add_def, Totals.zero, left, right]

/-! ## Looking up packages -/

/-- The package of a name. -/
def package? (c : Census) (name : String) : Option Package :=
  c.packages.find? (·.name = name)

theorem package?_of_mem {c : Census} {p : Package} (h : p ∈ c.packages) :
    c.package? p.name = some p := by
  have found {ps : List Package} (nodup : (ps.map (·.name)).Nodup) (h : p ∈ ps) :
      ps.find? (·.name = p.name) = some p := by
    induction ps with
    | nil => cases h
    | cons q qs ih =>
      rw [List.map_cons, List.nodup_cons] at nodup
      rcases List.mem_cons.1 h with rfl | h
      · simp
      · have ne : q.name ≠ p.name := fun same => nodup.1 (same ▸ List.mem_map_of_mem h)
        rw [List.find?_cons_of_neg (by simpa using ne)]
        exact ih nodup.2 h
  exact found c.distinct h

theorem package?_extendPackage_of_ne {c : Census} {name other : String} {comments : CommentCounts}
    {units : List (UnitElement CommentCounts)} (ne : other ≠ name) :
    (c.extendPackage name comments units).package? other = c.package? other := by
  rw [package?, package?, packages_extendPackage]
  induction c.packages with
  | nil => simp [updatePackage, PackageElement.extend, ne.symm]
  | cons p ps ih =>
    rw [updatePackage]
    split
    · rename_i named
      subst named
      simp [PackageElement.extend, ne.symm]
    · rw [List.find?_cons, List.find?_cons, ih]

end Census

/-! ## Merging in place -/

/-- Censuses that stand under names and are changed where they stand. -/
abbrev Roots (ι : Type) := ι → Census

namespace Roots

variable {ι : Type} [DecidableEq ι] {target source : ι}

/-- Takes over one package, as it is when its turn comes. -/
def takePackage (target source : ι) (r : Roots ι) (name : String) : Roots ι :=
  match (r source).package? name with
  | some p => Function.update r target ((r target).extendPackage p.name p.comments p.units)
  | none => r

/-- Merges the one census into the other. Which packages are taken over is settled at the start,
what they hold is read one by one, and the modular units are read last. -/
def mergeInto (target source : ι) (r : Roots ι) : Roots ι :=
  let taken := (r source).packageNames.foldl (takePackage target source) r
  Function.update taken target ((taken target).addModularUnits (taken source).modularUnits)

/-- The packages are taken over as they were at the start, also where the census takes over itself:
each changes one package only, the one whose turn it is. -/
theorem foldl_takePackage (r : Roots ι) {ps : List Package} (nodup : (ps.map (·.name)).Nodup)
    (held : ∀ p ∈ ps, (r source).package? p.name = some p) :
    (ps.map (·.name)).foldl (takePackage target source) r =
      Function.update r target ((r target).takeOver ps) := by
  induction ps generalizing r with
  | nil => exact (Function.update_eq_self target r).symm
  | cons p ps ih =>
    rw [List.map_cons, List.nodup_cons] at nodup
    have step : takePackage target source r p.name =
        Function.update r target ((r target).extendPackage p.name p.comments p.units) := by
      rw [takePackage, held p (List.mem_cons_self ..)]
    rw [List.map_cons, List.foldl_cons, step, ih _ nodup.2, Function.update_self,
      Function.update_idem]
    · rfl
    · -- what is still to be taken over has not changed
      intro q hq
      have ne : q.name ≠ p.name := fun same => nodup.1 (same ▸ List.mem_map_of_mem hq)
      have held := held q (List.mem_cons_of_mem _ hq)
      by_cases same : source = target
      · subst same
        rw [Function.update_self, Census.package?_extendPackage_of_ne ne, held]
      · rw [Function.update_of_ne same, held]

theorem mergeInto_eq (r : Roots ι) : r.mergeInto target source =
    Function.update r target ((r target).merge (r source)) := by
  have taken : (r source).packageNames.foldl (takePackage target source) r =
      Function.update r target ((r target).takeOver (r source).packages) :=
    foldl_takePackage r (r source).distinct fun p hp => Census.package?_of_mem hp
  have modular : (Function.update r target ((r target).takeOver (r source).packages)
      source).modularUnits = (r source).modularUnits := by
    by_cases same : source = target
    · subst same
      rw [Function.update_self, Census.modularUnits_takeOver]
    · rw [Function.update_of_ne same]
  rw [mergeInto, taken, modular, Function.update_self, Function.update_idem,
    Census.merge_eq]

/-- After merging, the census that took over another one, or itself, has the sum of the totals of
both, with packages counted by their names; its own packages come first, then those of the other one
that are new; and no other census is changed. -/
theorem mergeInto_adds_totals (r : Roots ι) (target source : ι) :
    ((r.mergeInto target source) target).total = { (r target).total + (r source).total with
        packages := ((r target).packageNames ++ (r source).packageNames).toFinset.card } ∧
      ((r.mergeInto target source) target).packageNames = (r target).packageNames ++
        (r source).packageNames.filter (· ∉ (r target).packageNames) ∧
      (r.mergeInto target source) target = (r target).merge (r source) ∧
      ∀ other ≠ target, (r.mergeInto target source) other = r other := by
  have merged : (r.mergeInto target source) target = (r target).merge (r source) := by
    rw [mergeInto_eq, Function.update_self]
  refine ⟨?_, ?_, merged, ?_⟩
  · rw [merged, Census.total_merge]
  · rw [merged, Census.packageNames_merge]
  · intro other ne
    rw [mergeInto_eq, Function.update_of_ne ne]

end Roots

end JavaCensus
