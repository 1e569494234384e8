import JavaCensus.Proofs.Growth

/-!
# What the two passes leave over

The first pass puts a line comment on the last sibling that it trails. The second one gives each
sibling the last of the comments that start between it and the sibling before it. What a pass leaves
over found the slot taken that it was meant for.
-/
namespace JavaCensus

/-- The first of the siblings that starts where the comment does or after it. -/
def followed? (siblings : List Sibling) (c : Comment) : Option Sibling :=
  siblings.find? fun s => c.span.start ≤ s.node.span.start

theorem mem_of_trailed? {siblings : List Sibling} {c : Comment} {s : Sibling}
    (h : trailed? siblings c = some s) : s ∈ siblings ∧ trails s.node c :=
  List.mem_filter.1 (List.mem_of_getLast? h)

theorem mem_of_followed? {siblings : List Sibling} {c : Comment} {s : Sibling}
    (h : followed? siblings c = some s) :
    s ∈ siblings ∧ c.span.start ≤ s.node.span.start :=
  ⟨List.mem_of_find?_eq_some h, by simpa using List.find?_some h⟩

/-! ## Siblings that took comments -/

namespace Sibling

variable {S T : List Sibling}

theorem GrowsTo.trails {s t : Sibling} (h : s.GrowsTo t) (c : Comment) :
    trails t.node c = trails s.node c := by
  rw [JavaCensus.trails, JavaCensus.trails, h.2.node.span]

theorem map_number (h : List.Forall₂ GrowsTo S T) : T.map (·.number) = S.map (·.number) := by
  induction h with
  | nil => rfl
  | cons hst _ ih => rw [List.map_cons, List.map_cons, hst.1, ih]

theorem map_number_trailed? (h : List.Forall₂ GrowsTo S T) (c : Comment) :
    (trailed? T c).map (·.number) = (trailed? S c).map (·.number) := by
  induction h with
  | nil => rfl
  | @cons s t _ _ hst _ ih =>
    rw [trailed?_cons, trailed?_cons, hst.trails, Option.map_or, Option.map_or, ih]
    split
    · rw [Option.map_some, Option.map_some, hst.1]
    · rfl

theorem map_number_followed? (h : List.Forall₂ GrowsTo S T) (c : Comment) :
    (followed? T c).map (·.number) = (followed? S c).map (·.number) := by
  induction h with
  | nil => rfl
  | cons hst _ ih =>
    rw [followed?, followed?, List.find?_cons, List.find?_cons, hst.2.node.span]
    split
    · rw [Option.map_some, Option.map_some, hst.1]
    · exact ih

end Sibling

/-! ## Trailing comments -/

/-- What the first pass makes of one of the siblings, given comments of which it leaves some. The
siblings are told apart by their numbers, since their nodes change. -/
inductive TakesBehind (siblings : List Sibling) (cs left : List Comment) (s : Sibling) :
    Sibling → Prop
  | kept : TakesBehind siblings cs left s s
  | taken {c : Comment} (given : c ∈ cs) (gone : c ∉ left)
      (last : (trailed? siblings c).map (·.number) = some s.number)
      (free : s.node.slots.comment = none) :
      TakesBehind siblings cs left s ⟨s.number, s.node.setComment c⟩

section Trailing

variable {c : Comment} {cs : List Comment} {S T : List Sibling} {s : Sibling}

/-- A comment that trails a sibling is not attached only if that one has a comment. -/
theorem isSome_of_attachTrailing_eq_none (h : attachTrailing c S = none)
    (last : trailed? S c = some s) : s.node.slots.comment.isSome := by
  induction S with
  | nil => cases last
  | cons t rest ih =>
    rw [attachTrailing, ← isSome_trailed?] at h
    rw [trailed?_cons] at last
    split at h
    · rename_i some
      obtain ⟨u, hu⟩ := Option.isSome_iff_exists.1 some
      rw [hu, Option.some_or] at last
      exact ih (Option.map_eq_none_iff.1 h) (hu.trans last)
    · rename_i none
      rw [Option.not_isSome_iff_eq_none.1 none, Option.none_or] at last
      split at last
      · rename_i fits
        cases last
        simpa [fits, Option.isSome_iff_ne_none] using h
      · cases last

theorem attachTrailing_takes (h : attachTrailing c S = some T) :
    List.Forall₂ (TakesBehind S [c] []) S T := by
  obtain ⟨before, s, after, rfl, last, free, rfl⟩ := attachTrailing_split h
  have kept (ss : List Sibling) :
      List.Forall₂ (TakesBehind (before ++ s :: after) [c] []) ss ss :=
    List.forall₂_same.2 fun _ _ => .kept
  exact List.rel_append (kept before) (.cons
    (.taken (List.mem_singleton_self c) (List.not_mem_nil) (congrArg _ last) free) (kept after))

theorem placeTrailing_sublist (S : List Sibling) (cs : List Comment) :
    (placeTrailing S cs).2.Sublist cs := by
  induction cs generalizing S with
  | nil => exact .slnil
  | cons c cs ih =>
    rw [placeTrailing]
    split
    · exact (ih _).cons c
    · exact (ih S).cons_cons c

theorem placeTrailing_takes (S : List Sibling) (distinct : cs.Nodup) :
    List.Forall₂ (TakesBehind S cs (placeTrailing S cs).2) S (placeTrailing S cs).1 := by
  induction cs generalizing S with
  | nil => exact List.forall₂_same.2 fun _ _ => .kept
  | cons c cs ih =>
    obtain ⟨other, distinct⟩ := List.nodup_cons.1 distinct
    rw [placeTrailing]
    split
    · rename_i S' attached
      refine forall₂_comp ?_ (attachTrailing_takes attached) (ih S' distinct)
      intro s s' t first rest
      cases first with
      | kept =>
        cases rest with
        | kept => exact .kept
        | taken given gone last free =>
          refine .taken (List.mem_cons_of_mem _ given) gone ?_ free
          rwa [← Sibling.map_number_trailed? (attachTrailing_grows attached)]
      | taken given _ last free =>
        cases rest with
        | kept =>
          obtain rfl := List.mem_singleton.1 given
          exact .taken (List.mem_cons_self ..)
            (fun left => other ((placeTrailing_sublist S' cs).mem left)) last free
        | taken _ _ _ full => cases full
    · refine (ih S distinct).imp ?_
      rintro s t (_ | ⟨given, gone, last, free⟩)
      · exact .kept
      · refine .taken (List.mem_cons_of_mem _ given) ?_ last free
        intro left
        rcases List.mem_cons.1 left with rfl | left
        · exact other given
        · exact gone left

/-- A comment is left over by the first pass only if the last sibling it trails has a comment. -/
theorem isSome_of_mem_placeTrailing (numbers : (S.map (·.number)).Nodup)
    (left : c ∈ (placeTrailing S cs).2)
    (taken : s ∈ (placeTrailing S cs).1)
    (last : (trailed? S c).map (·.number) = some s.number) :
    s.node.slots.comment.isSome := by
  induction cs generalizing S with
  | nil => cases left
  | cons d cs ih =>
    rw [placeTrailing] at left taken
    split at left
    · rename_i S' attached
      simp only [attached] at taken
      have grows := attachTrailing_grows attached
      refine ih ?_ left taken ?_
      · rwa [Sibling.map_number grows]
      · rwa [Sibling.map_number_trailed? grows]
    · rename_i refused
      simp only [refused] at taken
      rcases List.mem_cons.1 left with rfl | left
      · obtain ⟨t, ht, number⟩ := Option.map_eq_some_iff.1 last
        obtain ⟨r, hr, grows⟩ := forall₂_exists_of_mem_right (placeTrailing_grows S cs) taken
        obtain rfl : t = r := List.inj_on_of_nodup_map numbers (mem_of_trailed? ht).1 hr
          (number.trans grows.1.symm)
        obtain ⟨e, he⟩ := Option.isSome_iff_exists.1 (isSome_of_attachTrailing_eq_none refused ht)
        rw [grows.2.node.slots.comment e he]
        rfl
      · exact ih numbers left taken last

/-- The first pass leaves a comment or puts it on a sibling. -/
theorem mem_placeTrailing (S : List Sibling) (given : c ∈ cs) :
    c ∈ (placeTrailing S cs).2 ∨
      ∃ t ∈ (placeTrailing S cs).1, t.node.slots.comment = some c := by
  induction cs generalizing S with
  | nil => cases given
  | cons d cs ih =>
    rw [placeTrailing]
    split
    · rename_i S' attached
      rcases List.mem_cons.1 given with rfl | given
      · obtain ⟨before, s, after, -, -, -, rfl⟩ := attachTrailing_split attached
        obtain ⟨t, ht, grows⟩ := forall₂_exists_of_mem_left (placeTrailing_grows _ cs)
          (List.mem_append_right before (List.mem_cons_self ..))
        exact .inr ⟨t, ht, grows.2.node.slots.comment _ rfl⟩
      · exact ih S' given
    · rcases List.mem_cons.1 given with rfl | given
      · exact .inl (List.mem_cons_self ..)
      · exact (ih S given).imp_left (List.mem_cons_of_mem _)

end Trailing

/-! ## Preceding comments -/

/-- What the second pass makes of one of the siblings, given the comments that are left. -/
inductive TakesInFront (left : List Comment) (s : Sibling) : Sibling → Prop
  | kept : TakesInFront left s s
  | taken {c : Comment} {n : Node} (given : c ∈ left)
      (before : c.span.start ≤ s.node.span.start) (attached : attachPreceding s.node c = some n) :
      TakesInFront left s ⟨s.number, n⟩

section Preceding

variable {c : Comment} {cs : List Comment} {S : List Sibling} {s : Sibling} {n m : Node}

theorem mem_upToStart (h : c ∈ upToStart n cs) : c ∈ cs ∧ c.span.start ≤ n.span.start :=
  ⟨(List.takeWhile_sublist _).mem h, by simpa using List.mem_takeWhile_imp h⟩

theorem afterStart_sublist (n : Node) (cs : List Comment) : (afterStart n cs).Sublist cs :=
  List.dropWhile_sublist _

theorem placePreceding_takes (S : List Sibling) (cs : List Comment) :
    List.Forall₂ (TakesInFront cs) S (placePreceding S cs).1 := by
  induction S generalizing cs with
  | nil => exact .nil
  | cons s rest ih =>
    have below : List.Forall₂ (TakesInFront cs) rest
        (placePreceding rest (afterStart s.node cs)).1 := by
      refine (ih (afterStart s.node cs)).imp ?_
      rintro s' t (_ | ⟨given, before, attached⟩)
      · exact .kept
      · exact .taken ((afterStart_sublist _ _).mem given) before attached
    obtain ⟨t, front, eq, ⟨rfl, -, -⟩ | ⟨c, n, last, attached, rfl⟩⟩ :=
      placePreceding_cons s rest cs
    · rw [eq]
      exact .cons .kept below
    · obtain ⟨given, before⟩ := mem_upToStart (last ▸ List.mem_append_right front (.head []))
      rw [eq]
      exact .cons (.taken given before attached) below

/-- A comment with no blank line before the node is not attached only if the slot for it is
taken. -/
theorem isSome_of_attachPreceding_eq_none (h : attachPreceding n c = none)
    (near : n.span.startLine - c.span.stopLine ≤ 1) (undocumented : n.slots.doc = none) :
    n.slots.comment.isSome ∧ ¬(c.kind = .doc ∧ n.construct.isDocumentable) := by
  rw [attachPreceding, if_neg (Int.not_lt.2 near)] at h
  split at h
  · cases h
  · rename_i misfit
    split at h
    · cases h
    · rename_i full
      refine ⟨by simpa [Option.isSome_iff_ne_none] using full, ?_⟩
      simpa [undocumented] using misfit

/-- The second pass leaves a comment or puts it on a sibling. -/
theorem mem_placePreceding (S : List Sibling) (given : c ∈ cs) :
    c ∈ (placePreceding S cs).2 ∨
      ∃ t ∈ (placePreceding S cs).1, t.node.slots.comment = some c ∨ t.node.slots.doc = some c := by
  induction S generalizing cs with
  | nil => exact .inl given
  | cons s rest ih =>
    obtain ⟨t, front, eq, outcome⟩ := placePreceding_cons s rest cs
    rw [eq]
    rw [← upToStart_append_afterStart s.node cs, List.mem_append] at given
    rcases given with before | after
    · rcases outcome with ⟨-, rfl, -⟩ | ⟨d, n, last, attached, rfl⟩
      · exact .inl (List.mem_append_left _ before)
      · rw [last, List.mem_append, List.mem_singleton] at before
        rcases before with before | rfl
        · exact .inl (List.mem_append_left _ before)
        · refine .inr ⟨_, List.mem_cons_self .., ?_⟩
          obtain ⟨-, ⟨-, -, -, rfl⟩ | ⟨-, rfl⟩⟩ := attachPreceding_cases attached
          · exact .inr rfl
          · exact .inl rfl
    · rcases ih after with left | ⟨u, hu, slot⟩
      · exact .inl (List.mem_append_right _ left)
      · exact .inr ⟨u, List.mem_cons_of_mem _ hu, slot⟩

theorem placePreceding_subset (S : List Sibling) (cs : List Comment) :
    (placePreceding S cs).2 ⊆ cs := by
  induction S generalizing cs with
  | nil => exact List.Subset.refl _
  | cons s rest ih =>
    have before : upToStart s.node cs ⊆ cs := fun c hc => (mem_upToStart hc).1
    have after : (placePreceding rest (afterStart s.node cs)).2 ⊆ cs :=
      fun c hc => (afterStart_sublist s.node cs).mem (ih _ hc)
    obtain ⟨t, front, eq, ⟨-, rfl, -⟩ | ⟨c, n, last, -, -⟩⟩ := placePreceding_cons s rest cs
    · rw [eq]
      exact List.append_subset.2 ⟨before, after⟩
    · rw [eq]
      exact List.append_subset.2
        ⟨fun d hd => before (last ▸ List.mem_append_left _ hd), after⟩

/-- Each of the comments starts before all those behind it in the list. -/
def Ascending (cs : List Comment) : Prop :=
  cs.Pairwise fun c d => ¬d.span.start ≤ c.span.start

theorem Ascending.nodup (h : Ascending cs) : cs.Nodup := by
  refine h.imp ?_
  rintro c d before rfl
  exact before (Position.le_refl _)

theorem ascending_sortBy (h : cs.Pairwise fun c d => c.span.start ≠ d.span.start) :
    Ascending (sortBy Comment.startsBefore cs) := by
  have sorted : (sortBy Comment.startsBefore cs).Pairwise (Comment.startsBefore · ·) := by
    refine pairwise_sortBy ?_ ?_ cs
    · intro a b c hab hbc
      simp only [Comment.startsBefore, decide_eq_true_eq] at hab hbc ⊢
      exact Position.le_trans hab hbc
    · intro a b
      simp only [Comment.startsBefore, decide_eq_true_eq]
      exact Position.le_total _ _
  have apart := h.perm (sortBy_perm Comment.startsBefore cs).symm fun ne => ne.symm
  refine (sorted.and apart).imp ?_
  rintro c d ⟨order, ne⟩ back
  exact ne (Position.le_antisymm (of_decide_eq_true order) back)

theorem Ascending.not_le_of_mem_afterStart (h : Ascending cs) (hc : c ∈ afterStart n cs) :
    ¬c.span.start ≤ n.span.start := by
  induction cs with
  | nil => cases hc
  | cons d cs ih =>
    obtain ⟨first, rest⟩ := List.pairwise_cons.1 h
    rw [afterStart, List.dropWhile_cons] at hc
    split at hc
    · exact ih rest hc
    · rename_i after
      rw [decide_eq_true_eq] at after
      rcases List.mem_cons.1 hc with rfl | hc
      · exact after
      · intro before
        exact after (Position.le_trans ((Position.le_total _ _).resolve_right (first c hc)) before)

/-- A comment of the list that starts no earlier than any other one is the last. -/
theorem Ascending.getLast?_eq (h : Ascending cs) (hc : c ∈ cs)
    (latest : ∀ d ∈ cs, d.span.start ≤ c.span.start) : cs.getLast? = some c := by
  obtain ⟨before, after, rfl⟩ := List.append_of_mem hc
  cases after with
  | nil => simp
  | cons d after =>
    have ordered := (List.pairwise_append.1 h).2.1
    exact absurd (latest d (by simp)) (List.rel_of_pairwise_cons ordered (List.mem_cons_self ..))

/-- The last comment before a sibling is left over by the second pass only if it cannot be attached
to that sibling. -/
theorem attachPreceding_eq_none_of_mem (sorted : Ascending cs)
    (left : c ∈ (placePreceding S cs).2) (next : followed? S c = some s)
    (last : ∀ d ∈ cs, d.span.start ≤ s.node.span.start → d.span.start ≤ c.span.start) :
    attachPreceding s.node c = none := by
  induction S generalizing cs with
  | nil => cases next
  | cons t rest ih =>
    obtain ⟨u, front, eq, outcome⟩ := placePreceding_cons t rest cs
    rw [eq] at left
    rcases List.mem_append.1 left with hc | hc
    -- A comment up to the start of the first sibling, which is the one that follows it.
    · have upTo : c ∈ upToStart t.node cs := by
        rcases outcome with ⟨-, rfl, -⟩ | ⟨d, n, split, -, -⟩
        · exact hc
        · exact split ▸ List.mem_append_left _ hc
      have same : t = s := by
        simpa [followed?, List.find?_cons, (mem_upToStart upTo).2] using next
      subst same
      have ascending : Ascending (upToStart t.node cs) := sorted.sublist (List.takeWhile_sublist _)
      have latest (d : Comment) (hd : d ∈ upToStart t.node cs) : d.span.start ≤ c.span.start :=
        last d (mem_upToStart hd).1 (mem_upToStart hd).2
      rcases outcome with ⟨-, rfl, refused⟩ | ⟨d, n, split, -, -⟩
      · exact refused c (ascending.getLast?_eq upTo latest)
      · rw [split] at ascending latest
        have before := (List.pairwise_append.1 ascending).2.2 c hc d (List.mem_singleton_self d)
        exact absurd (latest d (by simp)) before
    · have after := sorted.not_le_of_mem_afterStart (placePreceding_subset rest _ hc)
      refine ih (sorted.sublist (afterStart_sublist _ _)) hc ?_ ?_
      · simpa [followed?, List.find?_cons, after] using next
      · exact fun d hd => last d ((afterStart_sublist _ _).mem hd)

end Preceding

end JavaCensus
