import JavaCensus.Collect.Unit
import Mathlib

/-!
# Runs of attributions

What it takes for a step of collecting to succeed. A sequence of steps succeeds if each step does,
from the ledger that the step before it leaves.
-/
namespace JavaCensus.Attribution

variable {α β : Type}

/-- From the first ledger the step succeeds with a value, and it leaves the second ledger. -/
def Returns (x : Attribution α) (before : Ledger) (a : α) (after : Ledger) : Prop :=
  ((x.run.run before : Except Error α × Ledger) = (.ok a, after))

theorem exists_returns {x : Attribution α} {l : Ledger}
    (h : (x.run.run l : Except Error α × Ledger).1.isOk = true) : ∃ a m, x.Returns l a m := by
  unfold Returns
  generalize (x.run.run l : Except Error α × Ledger) = r at h ⊢
  rcases r with ⟨e | a, m⟩
  · cases h
  · exact ⟨a, m, rfl⟩

theorem returns_pure {a b : α} {l m : Ledger} :
    (pure a : Attribution α).Returns l b m ↔ a = b ∧ l = m := by
  show (Except.ok a, l) = (Except.ok b, m) ↔ _
  simp

theorem run_bind {σ : Type} (x : ExceptT Error (StateM σ) α) (f : α → ExceptT Error (StateM σ) β)
    (l : σ) :
    (x >>= f).run.run l = match x.run.run l with
      | (.ok a, m) => (f a).run.run m
      | (.error e, m) => (.error e, m) := by
  show (ExceptT.bindCont f (x.run.run l).1).run (x.run.run l).2 = _
  rcases x.run.run l with ⟨_ | _, _⟩ <;> rfl

theorem returns_bind {x : Attribution α} {f : α → Attribution β} {l n : Ledger} {b : β} :
    (x >>= f).Returns l b n ↔ ∃ a m, x.Returns l a m ∧ (f a).Returns m b n := by
  unfold Returns
  rw [run_bind]
  generalize (x.run.run l : Except Error α × Ledger) = r
  rcases r with ⟨e | a, m⟩
  · constructor
    · intro h
      cases congrArg Prod.fst h
    · rintro ⟨_, _, h, _⟩
      cases congrArg Prod.fst h
  · constructor
    · exact fun h => ⟨a, m, rfl, h⟩
    · rintro ⟨_, _, h, k⟩
      cases h
      exact k

theorem not_returns_throw {e : Error} {l m : Ledger} {a : α} :
    ¬(throw e : Attribution α).Returns l a m := by
  intro h
  cases (congrArg Prod.fst h : Except.error e = Except.ok a)

theorem returns_require {x : Except Error α} {l m : Ledger} {a : α} :
    (require x).Returns l a m ↔ x = .ok a ∧ l = m := by
  show (x, l) = (.ok a, m) ↔ _
  simp

theorem returns_claim {cs ds : List Comment} {l m : Ledger} :
    (claim cs).Returns l ds m ↔ l.fresh cs = ds ∧ l.claimAll cs = m := by
  show (Except.ok (l.fresh cs), l.claimAll cs) = (Except.ok ds, m) ↔ _
  simp

theorem returns_claimAdjacent {n parent : Node} {l m : Ledger} {ds : List Comment} :
    (claimAdjacent n parent).Returns l ds m ↔
      (claim (l.adjacentOrphans n parent)).Returns l ds m :=
  Iff.rfl

/-! ## Lists of steps -/

theorem returns_each_nil {f : α → Attribution β} {ys : List β} {l m : Ledger} :
    (each [] fun a _ => f a).Returns l ys m ↔ [] = ys ∧ l = m :=
  returns_pure

theorem returns_each_cons {f : α → Attribution β} {x : α} {xs : List α} {zs : List β}
    {l n : Ledger} :
    (each (x :: xs) fun a _ => f a).Returns l zs n ↔
      ∃ y m ys, (f x).Returns l y m ∧ (each xs fun a _ => f a).Returns m ys n ∧ y :: ys = zs := by
  simp only [each, returns_bind, returns_pure]
  constructor
  · rintro ⟨y, m, hy, ys, k, hys, rfl, rfl⟩
    exact ⟨y, m, ys, hy, hys, rfl⟩
  · rintro ⟨y, m, ys, hy, hys, rfl⟩
    exact ⟨y, m, hy, ys, n, hys, rfl, rfl⟩

theorem returns_each_append {f : α → Attribution β} {xs ys : List α} {zs : List β} {l n : Ledger} :
    (each (xs ++ ys) fun a _ => f a).Returns l zs n ↔
      ∃ as m bs, (each xs fun a _ => f a).Returns l as m ∧
        (each ys fun a _ => f a).Returns m bs n ∧ as ++ bs = zs := by
  induction xs generalizing l zs with
  | nil =>
    constructor
    · intro h
      exact ⟨[], l, zs, returns_each_nil.2 ⟨rfl, rfl⟩, h, rfl⟩
    · rintro ⟨as, m, bs, has, hbs, rfl⟩
      obtain ⟨rfl, rfl⟩ := returns_each_nil.1 has
      exact hbs
  | cons x xs ih =>
    rw [List.cons_append, returns_each_cons]
    constructor
    · rintro ⟨y, k, rest, hy, hrest, rfl⟩
      obtain ⟨as, m, bs, has, hbs, rfl⟩ := ih.1 hrest
      exact ⟨y :: as, m, bs, returns_each_cons.2 ⟨y, k, as, hy, has, rfl⟩, hbs, rfl⟩
    · rintro ⟨_, m, bs, hxs, hbs, rfl⟩
      obtain ⟨y, k, as, hy, has, rfl⟩ := returns_each_cons.1 hxs
      exact ⟨y, k, as ++ bs, hy, ih.2 ⟨as, m, bs, has, hbs, rfl⟩, rfl⟩

/-- Steps may be numbered. -/
theorem each_zipIdx (f : α → Attribution β) (xs : List α) (k : Nat) :
    (each (xs.zipIdx k) fun a _ => f a.1) = each xs fun a _ => f a := by
  induction xs generalizing k with
  | nil => rfl
  | cons x xs ih => simp only [List.zipIdx_cons, each, ih (k + 1)]

end JavaCensus.Attribution
