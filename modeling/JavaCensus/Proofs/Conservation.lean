import JavaCensus.Collect.Collector
import JavaCensus.Proofs.Claims

/-!
# Conservation of comments

Collecting a unit counts each comment that stands in it, once. A comment that several places of the
tree hold is counted for one of them, and it goes to the bucket of a single element.
-/
namespace JavaCensus

open Attribution

/-- What a collector that has taken in a unit has done. -/
theorem Collector.collectUnit_of_ok {c : Collector} {name : String} {unit : Node}
    (h : (c.collectUnit name unit).result = .ok ()) :
    ∃ u ledger, (JavaCensus.collectUnit unit name).Returns .empty u ledger ∧
      (c.collectUnit name unit).collector =
        ⟨c.census.addUnit (u.map .ofComments), c.units + 1⟩ := by
  unfold Collector.collectUnit at h ⊢
  split
  · rename_i empty
    rw [if_pos empty] at h
    cases h
  · rename_i named
    rw [if_neg named] at h
    unfold Returns
    generalize ((JavaCensus.collectUnit unit name).run.run Ledger.empty :
      Except Error (CollectedUnit (List Comment)) × Ledger) = run at h ⊢
    rcases run with ⟨e | u, ledger⟩
    · cases h
    · exact ⟨u, ledger, rfl, rfl⟩

/-- The buckets of a collected unit hold the comments of the tree, each once. -/
theorem buckets_perm_of_collectUnit {unit : Node} {name : String}
    {u : CollectedUnit (List Comment)} {ledger : Ledger}
    (h : (collectUnit unit name).Returns .empty u ledger) :
    ledger.claimed.Perm unit.heldComments.dedup ∧
      u.buckets.flatten.Perm unit.heldComments.dedup := by
  have claims := collectUnit_claims h
  have balance : ledger.claimed.Perm u.buckets.flatten := claims.balance
  have claimed : ledger.claimed.Perm unit.heldComments.dedup := by
    rw [List.perm_ext_iff_of_nodup ledger.distinct (List.nodup_dedup _)]
    intro d
    rw [List.mem_dedup, balance.mem_iff]
    exact ⟨fun hd => claims.subset hd,
      fun hd => balance.mem_iff.1 (heldComments_subset_of_collectUnit h hd)⟩
  exact ⟨claimed, balance.symm.trans claimed⟩

/-- In a family of buckets without repetition an entry has its bucket to itself. -/
theorem existsUnique_bucket {α : Type} {buckets : List (List α)} (nodup : buckets.flatten.Nodup)
    {d : α} (hd : d ∈ buckets.flatten) : ∃! i : Fin buckets.length, d ∈ buckets[i] := by
  obtain ⟨bucket, hbucket, hd⟩ := List.mem_flatten.1 hd
  obtain ⟨i, hi, rfl⟩ := List.getElem_of_mem hbucket
  refine ⟨⟨i, hi⟩, hd, fun j hj => ?_⟩
  have disjoint := List.pairwise_iff_getElem.1 (List.nodup_flatten.1 nodup).2
  rcases Nat.lt_trichotomy j i with lt | eq | gt
  · exact (disjoint j i j.2 hi lt hj hd).elim
  · exact Fin.ext eq
  · exact (disjoint i j hi j.2 gt hd hj).elim

/-- The totals of comments grow by what the distinct comments of the unit contribute, and each of
them is held by one bucket of what the collector adds. -/
theorem Collector.collectUnit_counts_comments_once {c : Collector} {name : String} {unit : Node}
    (h : (c.collectUnit name unit).result = .ok ()) :
    (c.collectUnit name unit).collector.census.total.comments =
        c.census.total.comments + (unit.heldComments.dedup.map (·.contribution)).sum ∧
      ∃ u ledger, (JavaCensus.collectUnit unit name).Returns .empty u ledger ∧
        (c.collectUnit name unit).collector.census = c.census.addUnit (u.map .ofComments) ∧
        u.buckets.flatten.Perm unit.heldComments.dedup ∧
        ∀ d ∈ unit.heldComments, ∃! i : Fin u.buckets.length, d ∈ u.buckets[i] := by
  obtain ⟨u, ledger, hu, collector⟩ := Collector.collectUnit_of_ok h
  obtain ⟨-, buckets⟩ := buckets_perm_of_collectUnit hu
  rw [collector]
  refine ⟨?_, u, ledger, hu, rfl, buckets, fun d hd => ?_⟩
  · rw [Census.comments_total_addUnit, CollectedUnit.buckets_map,
      ← CommentCounts.ofComments_flatten, CommentCounts.ofComments_perm buckets,
      CommentCounts.ofComments_eq_sum]
  · exact existsUnique_bucket (buckets.nodup_iff.2 (List.nodup_dedup _))
      (buckets.mem_iff.2 (List.mem_dedup.2 hd))

/-- A unit in which three nodes hold one comment, one of them twice, and one of the nodes holds
another comment. -/
def aliasedUnit : Node :=
  let note : Comment := ⟨0, .line, "note", .ofLines 1 1 1 6⟩
  let other : Comment := ⟨1, .doc, "*\n * other\n ", .ofLines 2 1 4 3⟩
  ⟨.ofLines 1 1 5 1, ⟨none, none, [note]⟩, .compilationUnit none []
    [⟨.ofLines 2 1 4 1, ⟨some note, none, [note]⟩, .typeDeclaration .class "A" []
      [⟨.ofLines 3 1 3 9, ⟨some other, some note, []⟩,
        .callable (.method "int") "f" [] none []⟩]⟩] none⟩

theorem Collector.collectUnit_aliasedUnit :
    (empty.collectUnit "A" aliasedUnit).collector.census.total.comments =
        ⟨1, 4, 0, 0, 0, 1, 3, 5⟩ ∧
      ∃ u ledger, (JavaCensus.collectUnit aliasedUnit "A").Returns .empty u ledger ∧
        (empty.collectUnit "A" aliasedUnit).collector.census =
          empty.census.addUnit (u.map .ofComments) ∧
        u.buckets.flatten.Perm aliasedUnit.heldComments.dedup ∧
        ∀ d ∈ aliasedUnit.heldComments, ∃! i : Fin u.buckets.length, d ∈ u.buckets[i] := by
  have taken : (empty.collectUnit "A" aliasedUnit).result = .ok () := by cbv
  obtain ⟨total, rest⟩ := collectUnit_counts_comments_once taken
  exact ⟨total.trans (by cbv), rest⟩

end JavaCensus
