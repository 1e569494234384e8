import JavaCensus.Proofs.Agreement
import JavaCensus.Proofs.Erasure

/-!
# Comments change nothing but their counts

A source is read and collected as it is without its comments, up to the counts of comments.
-/
namespace JavaCensus

/-! ## The census without counts of comments -/

namespace PackageElement

def map {β γ : Type} (f : β → γ) (p : PackageElement β) : PackageElement γ :=
  ⟨p.name, f p.comments, p.units.map (·.map f)⟩

end PackageElement

theorem map_updatePackage (name : String) {f g : Package → Package}
    (same : ∀ p, (f p).map noComments = g (p.map noComments)) (ps : List Package) :
    (updatePackage name f ps).map (·.map noComments) =
      updatePackage name g (ps.map (·.map noComments)) := by
  induction ps with
  | nil => exact congrArg ([·]) (same ⟨name, 0, []⟩)
  | cons p ps ih =>
    rw [updatePackage, List.map_cons, updatePackage]
    split
    · rename_i found
      rw [List.map_cons, same, if_pos (by exact found)]
    · rename_i other
      rw [List.map_cons, ih, if_neg (by exact other)]

namespace Census

/-- The census with all counts of comments set to zero. -/
def skeleton (c : Census) : Census :=
  ⟨c.packages.map (·.map noComments), c.modularUnits.map (·.map noComments), by
    rw [List.map_map]
    exact c.distinct⟩

theorem skeleton_addUnit (c : Census) (u : CollectedUnit CommentCounts) :
    (c.addUnit u).skeleton = c.skeleton.addUnit (u.map noComments) := by
  cases u with
  | ordinary u =>
    have packages := map_updatePackage u.package
      (f := fun p => ⟨p.name, p.comments + u.packageComments, p.units ++ [u.unit]⟩)
      (g := fun p => ⟨p.name, p.comments + 0, p.units ++ [u.unit.map noComments]⟩)
      (fun p => by simp [PackageElement.map, noComments]) c.packages
    simp only [addUnit, extendPackage, skeleton, CollectedUnit.map, packages]
    rfl
  | modular u =>
    simp only [addUnit, addModularUnits, skeleton, CollectedUnit.map, List.map_append,
      List.map_cons, List.map_nil]

end Census

/-! ## Units -/

section Map

variable {β γ δ : Type} (f : β → γ) (g : γ → δ)

theorem TypeElement.map_map (t : TypeElement β) : (t.map f).map g = t.map fun b => g (f b) := by
  induction t using TypeElement.induction
    (Q := fun m => (m.map f).map g = m.map fun b => g (f b)) with
  | type t methods innerTypes =>
    cases t
    simp only [TypeElement.map, MethodElement.mapAll_eq, TypeElement.mapAll_eq, List.map_map]
    congr 1
    · exact List.map_congr_left methods
    · exact List.map_congr_left innerTypes
  | method m localTypes =>
    cases m
    simp only [MethodElement.map, TypeElement.mapAll_eq, List.map_map]
    congr 1
    exact List.map_congr_left localTypes

theorem CollectedUnit.map_map (u : CollectedUnit β) : (u.map f).map g = u.map fun b => g (f b) := by
  cases u with
  | ordinary u =>
    simp only [CollectedUnit.map, UnitElement.map, List.map_map, Function.comp_def,
      TypeElement.map_map]
  | modular u => rfl

end Map

namespace Collector

/-- Both units have ended with the same result, and with the same census but for the counts of
comments. -/
structure Outcome.Alike (a b : Outcome) : Prop where
  result : a.result = b.result
  units : a.collector.units = b.collector.units
  census : a.collector.census.skeleton = b.collector.census.skeleton

theorem collectUnit_alike (c : Collector) (name : String) {n m : Node}
    (same : n.stripped = m.stripped) : (c.collectUnit name n).Alike (c.collectUnit name m) := by
  have agree := (collectUnit_stripped n name .empty .empty).trans
    (same ▸ (collectUnit_stripped m name .empty .empty).symm)
  unfold collectUnit
  split
  · exact ⟨rfl, rfl, rfl⟩
  · generalize ((JavaCensus.collectUnit n name).run.run .empty : Except Error _ × Ledger) = p,
      ((JavaCensus.collectUnit m name).run.run .empty : Except Error _ × Ledger) = q at agree ⊢
    rcases p with ⟨e | u, l⟩ <;> rcases q with ⟨e' | v, k⟩
    · obtain rfl : e = e' := Except.error.inj agree
      exact ⟨rfl, rfl, rfl⟩
    · cases agree
    · cases agree
    · have units : u.map noComments = v.map noComments := Except.ok.inj agree
      refine ⟨rfl, rfl, ?_⟩
      rw [Census.skeleton_addUnit, Census.skeleton_addUnit, CollectedUnit.map_map,
        CollectedUnit.map_map]
      exact congrArg _ units

/-- A source is refused, or collected, as it is without its comments, and makes the same census but
for the counts of comments. -/
theorem collect_erase (c : Collector) (level : LanguageLevel) (preview : Bool) (name : String)
    (source : SourceText) {root : ParseTree} (h : root.CommentsApart) :
    (c.collect level preview name source ⟨root.erase, false⟩).Alike
      (c.collect level preview name source ⟨root, false⟩) := by
  have read := (Reading.mk name source).unitOf_erase level preview h
  unfold collect readUnit
  simp only [read]
  cases (Reading.mk name source).unitOf level preview ⟨root, false⟩ with
  | error e => exact ⟨rfl, rfl, rfl⟩
  | ok unit =>
    -- The unit is the same; only what is placed on it differs.
    have same (comments : List Comment) :=
      (unit.growsTo_place comments).stripped_same
    obtain ⟨result, units, census⟩ := c.collectUnit_alike name
      ((same ((Reading.mk name source).comments root.erase)).trans
        (same ((Reading.mk name source).comments root)).symm)
    exact ⟨result, units, census⟩

end Collector

/-! ## The package without its comments -/

theorem Collector.collect_packageTree_erase :
    (empty.collect .latest false "p" packageSource ⟨packageTree, false⟩).result = .ok () ∧
      (empty.collect .latest false "p" packageSource ⟨packageTree.erase, false⟩).Alike
        (empty.collect .latest false "p" packageSource ⟨packageTree, false⟩) := by
  refine ⟨?_, collect_erase empty .latest false "p" packageSource (by decide)⟩
  rw [collect, readUnit_packageTree]
  cbv

end JavaCensus
