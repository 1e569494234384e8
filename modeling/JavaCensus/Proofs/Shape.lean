import JavaCensus.Syntax.Placement
import Mathlib

/-!
# Shapes

A construct without its parts, and nodes that differ in their comments only. What a node is told to
be follows from its shape, so it stays the same when comments are placed below it.
-/
namespace JavaCensus

namespace Construct

variable {α β σ : Type}

/-- The construct without its parts; how many there are, and which of them, stays. -/
def shape (x : Construct α) : Construct Unit :=
  Id.run (x.traverse fun _ => pure ())

theorem fst_run_bind (x : StateM σ α) (f : α → StateM σ β) (s : σ) :
    ((x >>= f).run s).1 = ((f (x.run s).1).run (x.run s).2).1 :=
  rfl

theorem fst_run_pure (a : α) (s : σ) : ((pure a : StateM σ α).run s).1 = a :=
  rfl

theorem blank_list (f : α → StateM σ β) (xs : List α) (s : σ) :
    Id.run (((xs.mapM f).run s).1.mapM fun _ => pure ()) = Id.run (xs.mapM fun _ => pure ()) := by
  induction xs generalizing s with
  | nil => rfl
  | cons x xs ih =>
    simp only [List.mapM_cons, fst_run_bind, fst_run_pure, Id.run_bind, Id.run_pure, ih]

theorem blank_option (f : α → StateM σ β) (o : Option α) (s : σ) :
    Id.run (((o.mapM f).run s).1.mapM fun _ => pure ()) = Id.run (o.mapM fun _ => pure ()) := by
  cases o <;> rfl

theorem blank_optionalList (f : α → StateM σ β) (o : Option (List α)) (s : σ) :
    Id.run (((o.mapM (List.mapM f)).run s).1.mapM (List.mapM fun _ => pure ())) =
      Id.run (o.mapM (List.mapM fun _ => pure ())) := by
  cases o with
  | none => rfl
  | some xs => exact congrArg some (blank_list f xs s)

/-- Replacing the parts keeps the shape. -/
theorem shape_traverse (f : α → StateM σ β) (x : Construct α) (s : σ) :
    shape ((x.traverse f).run s).1 = shape x := by
  cases x <;> simp only [shape, traverse, fst_run_bind, fst_run_pure, Id.run_bind, Id.run_pure,
    blank_list, blank_option, blank_optionalList]

theorem shape_refill (x : Construct α) (parts : List α) : (x.refill parts).shape = x.shape :=
  shape_traverse nextOr x parts

end Construct

/-! ## Nodes that differ in comments -/

/-- What is in a slot stays there, and orphans come after those that are there. -/
structure Slots.ExtendedBy (before after : Slots) : Prop where
  comment : ∀ c ∈ before.comment, after.comment = some c
  doc : ∀ c ∈ before.doc, after.doc = some c
  orphans : before.orphans <+: after.orphans

namespace Slots.ExtendedBy

variable {s t u : Slots}

theorem refl (s : Slots) : s.ExtendedBy s where
  comment _ h := h
  doc _ h := h
  orphans := List.prefix_refl _

theorem trans (h : s.ExtendedBy t) (k : t.ExtendedBy u) : s.ExtendedBy u where
  comment c hc := k.comment c (h.comment c hc)
  doc c hc := k.doc c (h.doc c hc)
  orphans := h.orphans.trans k.orphans

end Slots.ExtendedBy

namespace Node

/-- The same node, but for comments that may have come into its slots. -/
structure ExtendedBy (before after : Node) : Prop where
  span : after.span = before.span
  shape : after.construct.shape = before.construct.shape
  slots : before.slots.ExtendedBy after.slots

/-- The same tree, but for comments that may have come into slots of any of its nodes. -/
def GrowsTo (before after : Node) : Prop :=
  ∀ path, Option.Rel ExtendedBy (before.descend? path) (after.descend? path)

variable {n m k : Node}

theorem ExtendedBy.refl (n : Node) : n.ExtendedBy n :=
  ⟨rfl, rfl, .refl _⟩

theorem ExtendedBy.trans (h : n.ExtendedBy m) (l : m.ExtendedBy k) : n.ExtendedBy k :=
  ⟨l.span.trans h.span, l.shape.trans h.shape, h.slots.trans l.slots⟩

namespace GrowsTo

theorem node (h : n.GrowsTo m) : n.ExtendedBy m := by
  have root := h []
  cases root
  assumption

theorem refl (n : Node) : n.GrowsTo n := by
  intro path
  cases n.descend? path with
  | none => exact .none
  | some m => exact .some (.refl m)

theorem trans (h : n.GrowsTo m) (l : m.GrowsTo k) : n.GrowsTo k := by
  intro path
  have first := h path
  have second := l path
  revert first second
  generalize n.descend? path = a, m.descend? path = b, k.descend? path = c
  intro first second
  cases first with
  | none =>
    cases second
    exact .none
  | some h =>
    cases second with
    | some l => exact .some (h.trans l)

/-- A tree grows if its root does and each of its children does. -/
theorem of_children (same : n.ExtendedBy m)
    (children : List.Forall₂ GrowsTo n.children m.children) :
    n.GrowsTo m := by
  intro path
  cases path with
  | nil => exact .some same
  | cons i path =>
    rw [descend?, descend?]
    cases hi : n.children[i]? with
    | none =>
      have beyond : m.children[i]? = none := by
        rw [List.getElem?_eq_none_iff] at hi ⊢
        rwa [← children.length_eq]
      rw [beyond]
      exact .none
    | some c =>
      obtain ⟨hlt, rfl⟩ := List.getElem?_eq_some_iff.1 hi
      have hlt' : i < m.children.length := children.length_eq ▸ hlt
      rw [List.getElem?_eq_getElem hlt']
      exact children.get hlt hlt' path

/-- If a tree grows, each of its children does. -/
theorem children (h : n.GrowsTo m) : List.Forall₂ GrowsTo n.children m.children := by
  have beyond (i : Nat) : n.children.length ≤ i ↔ m.children.length ≤ i := by
    have child := h [i]
    simp only [descend?, Option.bind_fun_some] at child
    rw [← List.getElem?_eq_none_iff, ← List.getElem?_eq_none_iff]
    generalize n.children[i]? = a, m.children[i]? = b at child ⊢
    cases child <;> simp
  have length : n.children.length = m.children.length :=
    Nat.le_antisymm ((beyond _).2 (Nat.le_refl _)) ((beyond _).1 (Nat.le_refl _))
  refine List.forall₂_of_length_eq_of_get length fun i hn hm path => ?_
  have child := h (i :: path)
  rw [descend?, descend?, List.getElem?_eq_getElem hn, List.getElem?_eq_getElem hm] at child
  exact child

end GrowsTo

end Node

end JavaCensus
