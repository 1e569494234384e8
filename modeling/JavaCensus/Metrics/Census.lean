import JavaCensus.Metrics.Element

/-!
# The census

The root of the metrics tree. Packages stand in the order in which they were first seen, and no
two of them have the same name, so every unit of a package lands in the same element.
-/
namespace JavaCensus

abbrev Package := PackageElement CommentCounts

abbrev ModularUnit := ModularUnitElement CommentCounts

/-- Applies `f` to the package of the given name; if there is none, a new one comes last. -/
def updatePackage (name : String) (f : Package → Package) : List Package → List Package
  | [] => [f ⟨name, 0, []⟩]
  | p :: ps => if p.name = name then f p :: ps else p :: updatePackage name f ps

theorem names_updatePackage {name : String} {f : Package → Package}
    (keep : ∀ p, (f p).name = p.name) (ps : List Package) :
    (updatePackage name f ps).map (·.name) =
      if name ∈ ps.map (·.name) then ps.map (·.name) else ps.map (·.name) ++ [name] := by
  induction ps with
  | nil => simp [updatePackage, keep]
  | cons p ps ih =>
    rw [updatePackage]
    by_cases h : p.name = name
    · simp [h, keep]
    · have h' : ¬name = p.name := fun e => h e.symm
      simp only [h, if_false, List.map_cons, ih, List.mem_cons, h', false_or]
      split <;> simp

theorem nodup_updatePackage {name : String} {f : Package → Package}
    (keep : ∀ p, (f p).name = p.name) {ps : List Package} (h : (ps.map (·.name)).Nodup) :
    ((updatePackage name f ps).map (·.name)).Nodup := by
  rw [names_updatePackage keep]
  split
  · exact h
  · rename_i hn
    exact List.nodup_append.2 ⟨h, by simp, fun a ha b hb => by
      rw [List.mem_singleton.1 hb]
      exact fun e => hn (e ▸ ha)⟩

structure Census where
  packages : List Package
  modularUnits : List ModularUnit
  distinct : (packages.map (·.name)).Nodup

namespace Census

def empty : Census := ⟨[], [], .nil⟩

def isEmpty (c : Census) : Bool :=
  c.packages.isEmpty && c.modularUnits.isEmpty

def packageNames (c : Census) : List String :=
  c.packages.map (·.name)

/-- Makes sure that the package exists. -/
def openPackage (c : Census) (name : String) : Census :=
  ⟨updatePackage name id c.packages, c.modularUnits, nodup_updatePackage (fun _ => rfl) c.distinct⟩

/-- Adds comments and units to a package, which is created if need be. -/
def extendPackage (c : Census) (name : String) (comments : CommentCounts)
    (units : List (UnitElement CommentCounts)) : Census :=
  ⟨updatePackage name (fun p => ⟨p.name, p.comments + comments, p.units ++ units⟩) c.packages,
    c.modularUnits, nodup_updatePackage (fun _ => by rfl) c.distinct⟩

def addModularUnits (c : Census) (units : List ModularUnit) : Census :=
  { c with modularUnits := c.modularUnits ++ units }

/-- Takes over the packages and the modular units of another census. -/
def merge (c other : Census) : Census :=
  (other.packages.foldl (fun c p => c.extendPackage p.name p.comments p.units) c).addModularUnits
    other.modularUnits

end Census

end JavaCensus
