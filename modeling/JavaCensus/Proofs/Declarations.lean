import JavaCensus.Proofs.Ownership

/-!
# Declarations and elements

The elements of a collected unit correspond one to one to the declarations of its tree, and an
element belongs to the element of the declaration that its own declaration belongs to.
-/
namespace JavaCensus

open Attribution

/-- The declarations of a tree, each with its place and with what it belongs to. -/
def Node.declarations (n : Node) : List Row :=
  (n.occurrences []).filterMap (·.declaration?)

/-- The elements of a type, each with its place and with what it belongs to. -/
def TypeElement.declarations (h : Holder) (t : TypeElement Origin) : List Row :=
  (t.rows h).filter (·.isDeclaration)

theorem Node.declarations_eq (n : Node) :
    n.declarations = (n.rows []).filter (·.isDeclaration) := by
  have one (o : Occurrence) : o.rows.filter (·.isDeclaration) = o.declaration?.toList := by
    have declared : ∀ row ∈ o.declaration?, row.isDeclaration = true := by
      intro row h
      obtain ⟨_, -, rfl⟩ := Option.map_eq_some_iff.1 h
      rfl
    have counted : ∀ row ∈ o.statement?, row.isDeclaration = false := by
      intro row h
      unfold Occurrence.statement? at h
      split at h
      · obtain ⟨_, -, rfl⟩ := Option.map_eq_some_iff.1 h
        rfl
      · cases h
    rw [Occurrence.rows, List.filter_append, List.filter_eq_self.2, List.filter_eq_nil_iff.2,
      List.append_nil]
    · intro row h
      simp [counted row (Option.mem_toList.1 h)]
    · intro row h
      exact declared row (Option.mem_toList.1 h)
  rw [declarations, rows, List.filter_flatMap, List.filterMap_eq_flatMap_toList]
  exact List.flatMap_congr fun o _ => (one o).symm

def declaredPlaces (rows : List Row) : List Place :=
  (rows.filter (·.isDeclaration)).map (·.place)

theorem declaredPlaces_declaration (place : Place) (h : Holder) (profile : Profile)
    (rows : List Row) :
    declaredPlaces (.declaration place h profile :: rows) = place :: declaredPlaces rows :=
  rfl

theorem declaredPlaces_append (a b : List Row) :
    declaredPlaces (a ++ b) = declaredPlaces a ++ declaredPlaces b := by
  rw [declaredPlaces, List.filter_append, List.map_append]
  rfl

theorem declaredPlaces_countRows (method? : Option Place) (counted : List (Place × Nat)) :
    declaredPlaces (countRows method? counted) = [] := by
  cases method? with
  | none => rfl
  | some method =>
    induction counted with
    | nil => rfl
    | cons c counted ih => exact ih

theorem declaredPlaces_fields (h : Holder) (fields : List (FieldElement Origin)) :
    declaredPlaces (fields.map (FieldElement.row h)) =
      (fields.map Element.field).map (·.comments.place) := by
  induction fields with
  | nil => rfl
  | cons f fields ih => exact congrArg (f.comments.place :: ·) ih

theorem declaredPlaces_flatMap {ι : Type} {xs : List ι} {rows : ι → List Row}
    {places : ι → List Place} (each : ∀ x ∈ xs, declaredPlaces (rows x) = places x) :
    declaredPlaces (xs.flatMap rows) = xs.flatMap places := by
  rw [declaredPlaces, List.filter_flatMap, List.map_flatMap]
  exact List.flatMap_congr each

theorem TypeElement.declaredPlaces_rows (t : TypeElement Origin) (h : Holder) :
    declaredPlaces (t.rows h) = t.elements.map (·.comments.place) := by
  induction t using TypeElement.induction (Q := fun m => ∀ h,
    declaredPlaces (m.rows h) = m.elements.map (·.comments.place)) generalizing h with
  | type t methods innerTypes =>
    rw [TypeElement.rows_eq, TypeElement.elements_eq, declaredPlaces_declaration,
      declaredPlaces_append, declaredPlaces_append, declaredPlaces_fields,
      declaredPlaces_flatMap fun m hm => methods m hm _,
      declaredPlaces_flatMap fun s hs => innerTypes s hs _, List.map_append, List.map_append,
      List.map_flatMap, List.map_flatMap]
    rfl
  | method m localTypes h =>
    rw [MethodElement.rows_eq, MethodElement.elements_eq, declaredPlaces_declaration,
      declaredPlaces_append, declaredPlaces_countRows,
      declaredPlaces_flatMap fun s hs => localTypes s hs _, List.map_cons, List.map_flatMap]
    rfl

theorem Node.nodup_declarations (n : Node) : (n.declarations.map (·.place)).Nodup := by
  have sublist : (n.declarations.map (·.place)).Sublist
      ((n.occurrences []).map (·.above.place)) := by
    unfold declarations
    induction n.occurrences [] with
    | nil => exact List.Sublist.refl _
    | cons o os ih =>
      cases hd : o.declaration? with
      | none =>
        rw [List.filterMap_cons_none hd]
        exact ih.cons _
      | some row =>
        obtain ⟨profile, -, rfl⟩ := Option.map_eq_some_iff.1 hd
        rw [List.filterMap_cons_some hd]
        exact ih.cons_cons _
  exact (n.nodup_places []).sublist sublist

/-- Types that come from the declarations of a tree have no two elements of one place. -/
theorem TypeElement.nodup_places (types : List (TypeElement Origin)) {n : Node}
    (declarations : (types.flatMap (·.declarations .unit)).Perm n.declarations) :
    ((types.flatMap (·.elements)).map (·.comments.place)).Nodup := by
  have places : (types.flatMap (·.declarations .unit)).map (·.place) =
      (types.flatMap (·.elements)).map (·.comments.place) := by
    rw [List.map_flatMap, List.map_flatMap]
    exact List.flatMap_congr fun t _ => t.declaredPlaces_rows .unit
  rw [← places, (declarations.map _).nodup_iff]
  exact n.nodup_declarations

/-- The elements of a unit can be given places in its tree such that what they belong to, their
names and their kinds are those of the declarations in these places. Each declaration has one
element, and each element a declaration of its own. -/
theorem collectOrdinaryUnit_declarations {n : Node} {name : String} {parts : UnitParts}
    {u : OrdinaryUnit (List Comment)} {l m : Ledger} (hparts : n.unitParts = .ok parts)
    (formed : parts.WellFormed) (h : (collectOrdinaryUnit n name).Returns l u m) :
    ∃ types : List (TypeElement Origin),
      types.map (·.map forget) = u.unit.types.map (·.map forget) ∧
      (types.flatMap (·.declarations .unit)).Perm n.declarations ∧
      ((types.flatMap (·.elements)).map (·.comments.place)).Nodup := by
  obtain ⟨fields, methods, types, hf, hm, ht, -, same⟩ :=
    collectOrdinaryUnit_standFor hparts formed h
  obtain rfl := List.map_eq_nil_iff.1 hf
  obtain rfl := List.map_eq_nil_iff.1 hm
  have declarations : (types.flatMap (·.declarations .unit)).Perm n.declarations := by
    have kept : types.flatMap (·.declarations .unit) =
        (types.flatMap (·.rows .unit)).filter (·.isDeclaration) := List.filter_flatMap.symm
    rw [Node.declarations_eq, kept]
    exact same.filter _
  exact ⟨types, ht, declarations, TypeElement.nodup_places types declarations⟩

/-- A class with two variables in one declaration, a method, and an enumeration of which one
constant has a body. -/
def nestedUnit : Node :=
  let there (x : Construct Node) : Node := .bare (.ofLines 1 1 1 1) x
  let fields := there (.fieldDeclaration "int"
    [there (.variableDeclarator "a" none), there (.variableDeclarator "b" none)] [])
  let method := there (.callable (.method "int") "f" [] none [])
  let body := [there (.callable (.method "int") "g" [] none [])]
  let constants := there (.enumDeclaration "E" []
    [there (.enumConstant "X" [] none), there (.enumConstant "Y" [] (some body))] [])
  there (.compilationUnit none [] [there (.typeDeclaration .class "A" []
    [fields, method, constants])] none)

theorem collectOrdinaryUnit_nestedUnit : ∃ u m,
    (collectOrdinaryUnit nestedUnit "A").Returns .empty u m ∧
    ∃ types : List (TypeElement Origin),
      types.map (·.map forget) = u.unit.types.map (·.map forget) ∧
      (types.flatMap (·.declarations .unit)).Perm nestedUnit.declarations ∧
      ((types.flatMap (·.elements)).map (·.comments.place)).Nodup := by
  obtain ⟨u, m, h⟩ := exists_returns (x := collectOrdinaryUnit nestedUnit "A") (l := .empty)
    (by cbv)
  refine ⟨u, m, h, collectOrdinaryUnit_declarations rfl ⟨fun p hp => ?_, List.forall_mem_nil _,
    fun t ht => ?_⟩ h⟩
  · exact absurd hp (Option.not_mem_none p)
  · obtain rfl := List.mem_singleton.1 ht
    rfl

end JavaCensus
