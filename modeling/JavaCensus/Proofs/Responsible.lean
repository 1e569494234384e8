import JavaCensus.Proofs.Attribution
import JavaCensus.Proofs.Conservation

/-!
# Responsibility

Each comment of a unit is counted for the recipient that is responsible for the node which holds
it, or, if it stands free in the node, for a child of the node that it is adjacent to when the turn
of the child comes. Comments never go farther.
-/
namespace JavaCensus

open Attribution

/-! ## The schedule of a unit -/

/-- The steps of a unit without a module. Its types come first, then its package and its
imports. -/
def Node.unitSchedule (n : Node) : List ClaimStep :=
  match n.construct with
  | .compilationUnit package imports types _ =>
    let heads := package.toList ++ imports
    ((types.zipIdx heads.length).flatMap fun t => t.1.schedule [⟨n, t.2⟩]) ++
      (heads.zipIdx.flatMap fun c => c.1.schedule [⟨n, c.2⟩]) ++ [ClaimStep.own ⟨n, []⟩]
  | _ => []

section Unit

variable {n : Node} {package : Option Node} {imports types : List Node}
  (hn : n.construct = .compilationUnit package imports types none)

include hn

theorem Occurrence.own?_of_unit : own? ⟨n, []⟩ = none := by
  simp [own?, Lineage.isVariable, documentsPackage, hn, Construct.isFieldDeclaration,
    Construct.elementSort?]

theorem Lineage.of_unit (i : Nat) : surroundings [⟨n, i⟩] = .unit ∧ holder [⟨n, i⟩] = .unit ∧
    isVariable [⟨n, i⟩] = false := by
  refine ⟨surroundings_of_outer (.inl (Occurrence.own?_of_unit hn)), ?_, ?_⟩
  · rw [holder, hn]
    rfl
  · rw [isVariable, hn]
    rfl

theorem Node.unitSchedule_perm : n.unitSchedule.Perm (n.schedule []) := by
  have children : n.children = (package.toList ++ imports) ++ types := by
    simp [Node.children, hn, Construct.children]
  have field : n.construct.isFieldDeclaration = false := by
    rw [hn]
    rfl
  rw [schedule_of_code (Occurrence.own?_of_unit hn) field, children, List.zipIdx_append,
    List.flatMap_append, Nat.zero_add, unitSchedule, hn]
  exact List.perm_append_comm.append_right _

theorem Node.unitSchedule_eq : n.unitSchedule =
    ((types.zipIdx (package.toList ++ imports).length).flatMap fun t => t.1.schedule [⟨n, t.2⟩]) ++
      ((package.toList.zipIdx.flatMap fun p => p.1.schedule [⟨n, p.2⟩]) ++
        (((imports.zipIdx package.toList.length).flatMap fun i => i.1.schedule [⟨n, i.2⟩]) ++
          [ClaimStep.own ⟨n, []⟩])) := by
  rw [unitSchedule, hn]
  simp only [List.zipIdx_append, List.flatMap_append, List.append_assoc, Nat.zero_add]

theorem Node.schedule_of_import {i : Node} {k : Nat} (formed : ∃ name isStatic isWildcard,
    i.construct = .importDeclaration name isStatic isWildcard) :
    i.schedule [⟨n, k⟩] = [.own ⟨i, [⟨n, k⟩]⟩] ∧ Occurrence.recipient ⟨i, [⟨n, k⟩]⟩ = .unit := by
  obtain ⟨name, isStatic, isWildcard, hi⟩ := formed
  obtain ⟨around, -, entered⟩ := Lineage.of_unit hn k
  have own : Occurrence.own? ⟨i, [⟨n, k⟩]⟩ = none := by
    simp [Occurrence.own?, entered, Occurrence.documentsPackage, hi,
      Construct.isFieldDeclaration, Construct.elementSort?]
  refine ⟨?_, ?_⟩
  · rw [schedule_of_code own (by rw [hi]; rfl), children, hi]
    rfl
  · rw [Occurrence.recipient, own, Option.getD_none, around]

theorem Node.schedule_of_package {p : Node} {k : Nat}
    (formed : ∃ name, p.construct = .packageDeclaration name) :
    if types.isEmpty then
      p.schedule [⟨n, k⟩] = [.adjacent ⟨p, [⟨n, k⟩]⟩, .own ⟨p, [⟨n, k⟩]⟩] ∧
        Occurrence.recipient ⟨p, [⟨n, k⟩]⟩ = .package
    else p.schedule [⟨n, k⟩] = [.own ⟨p, [⟨n, k⟩]⟩] ∧
      Occurrence.recipient ⟨p, [⟨n, k⟩]⟩ = .unit := by
  obtain ⟨name, hp⟩ := formed
  obtain ⟨around, -, entered⟩ := Lineage.of_unit hn k
  have field : p.construct.isFieldDeclaration = false := by
    rw [hp]
    rfl
  have own : Occurrence.own? ⟨p, [⟨n, k⟩]⟩ = if types.isEmpty then some .package else none := by
    cases types <;> simp [Occurrence.own?, entered, Occurrence.documentsPackage, hp, hn,
      Construct.isFieldDeclaration, Construct.elementSort?]
  split
  · rename_i empty
    rw [if_pos empty] at own
    refine ⟨?_, Occurrence.recipient_of_own own⟩
    have arguments : p.creationArguments = [] := by
      rw [creationArguments, hp]
    rw [schedule_of_declaration (Option.isSome_of_eq_some own) field arguments, children, hp]
    rfl
  · rename_i typed
    rw [if_neg typed] at own
    refine ⟨?_, ?_⟩
    · rw [schedule_of_code own field, children, hp]
      rfl
    · rw [Occurrence.recipient, own, Option.getD_none, around]

theorem unitTypes_deliver {l m : Ledger} {elements : List TypeOf} (k : Nat)
    (formed : ∀ t ∈ types, t.construct.codeRole = .declaredType) (fields : n.DeclaresFields)
    (h : (each types fun t _ => collectType t n).Returns l elements m) :
    Delivers .unit .unit l ((types.zipIdx k).flatMap fun t => t.1.schedule [⟨n, t.2⟩])
      ((types.zipIdx k).flatMap fun t => t.1.rows [⟨n, t.2⟩]) ⟨[], .ofTypes elements⟩ m := by
  have step (t : Node × Nat) (ht : t ∈ types.zipIdx k) (l : Ledger) (e : TypeOf) (m : Ledger)
      (h : (collectType t.1 n).Returns l e m) : Delivers .unit .unit l (t.1.schedule [⟨n, t.2⟩])
        (t.1.rows [⟨n, t.2⟩]) ⟨[], .ofTypes [e]⟩ m := by
    have ht := List.fst_mem_of_mem_zipIdx ht
    obtain ⟨sort, field⟩ := Construct.elementSort?_of_typeRole (.inl (formed t.1 ht))
    have none := Node.creationArguments_of_declaredType (formed t.1 ht)
    have own := Occurrence.own?_of_elementSort? (o := ⟨t.1, [⟨n, t.2⟩]⟩) field sort
    obtain ⟨-, holder, entered⟩ := Lineage.of_unit hn t.2
    have child : t.1 ∈ n.children := by
      simp [Node.children, hn, Construct.children, ht]
    have delivers := t.1.isDelivered t.1 t.1.mem_walk_self (fields.of_mem_children child)
      entered h .unit
    rw [holder, Node.typeRows_eq_rows none] at delivers
    rw [Node.schedule_of_own (Option.isSome_of_eq_some own) field, none]
    exact delivers
  rw [← each_zipIdx _ _ k] at h
  have gathered : Delivery.gather (elements.map fun e => ⟨[], .ofTypes [e]⟩) =
      ⟨[], .ofTypes elements⟩ := by
    simp [Delivery.gather, MemberParts.gather, MemberParts.ofTypes, List.flatMap_map]
  rw [← gathered]
  exact Delivers.of_each _ step h

theorem claimPackageComments_delivers {l m : Ledger} {held : List Comment × List Comment}
    (formed : ∀ p ∈ package, ∃ name, p.construct = .packageDeclaration name)
    (h : (claimPackageComments n package !types.isEmpty).Returns l held m) :
    let steps := package.toList.zipIdx.flatMap fun p => p.1.schedule [⟨n, p.2⟩]
    m = l.after steps ∧ (∀ c ∈ held.1, l.Offers steps .unit c) ∧
      ∀ c ∈ held.2, l.Offers steps .package c := by
  intro steps
  cases package with
  | none =>
    obtain ⟨rfl, rfl⟩ := returns_pure.1 h
    exact ⟨rfl, List.forall_mem_nil _, List.forall_mem_nil _⟩
  | some p =>
    have package := Node.schedule_of_package hn (k := 0) (formed p rfl)
    have only : steps = p.schedule [⟨n, 0⟩] := List.flatMap_singleton ..
    rw [only]
    split at package <;> rename_i empty <;> obtain ⟨schedule, recipient⟩ := package <;>
      rw [schedule] <;> simp only [claimPackageComments, empty] at h
    · obtain ⟨above, k, habove, h⟩ := returns_bind.1 h
      obtain ⟨own, _, hown, h⟩ := returns_bind.1 h
      obtain ⟨rfl, rfl⟩ := returns_pure.1 h
      have none := Delivers.nil .package .unit k
      have delivers := Delivers.around recipient habove none hown
      refine ⟨delivers.ledger, List.forall_mem_nil _, fun c hc => delivers.comments c ?_⟩
      simpa only [List.append_nil] using hc
    · obtain ⟨own, _, hown, h⟩ := returns_bind.1 h
      obtain ⟨rfl, rfl⟩ := returns_pure.1 h
      have delivers : Delivers .unit .unit l [.own ⟨p, [⟨n, 0⟩]⟩] [] ⟨own, .empty⟩ _ :=
        .of_claim recipient hown
      exact ⟨delivers.ledger, delivers.comments, List.forall_mem_nil _⟩

theorem claimUnitComments_delivers {l m : Ledger} {cs : List Comment} {k : Nat}
    (formed : ∀ i ∈ imports, ∃ name isStatic isWildcard,
      i.construct = .importDeclaration name isStatic isWildcard)
    (h : (claimUnitComments n imports).Returns l cs m) :
    let steps := ((imports.zipIdx k).flatMap fun i => i.1.schedule [⟨n, i.2⟩]) ++
      [ClaimStep.own ⟨n, []⟩]
    n.heldComments ⊆ (l.after steps).claimed → Delivers .unit .unit l steps [] ⟨cs, .empty⟩ m := by
  intro steps covered
  have step (i : Node × Nat) (hi : i ∈ imports.zipIdx k) (l : Ledger) (cs : List Comment)
      (m : Ledger) (h : (claimOwn i.1).Returns l cs m) :
      Delivers .unit .unit l (i.1.schedule [⟨n, i.2⟩]) [] ⟨cs, .empty⟩ m := by
    obtain ⟨schedule, recipient⟩ :=
      Node.schedule_of_import hn (k := i.2) (formed i.1 (List.fst_mem_of_mem_zipIdx hi))
    rw [schedule]
    exact .of_claim recipient h
  obtain ⟨imported, l₁, own, l₂, rest, himported, hown, hrest, rfl⟩ := claimUnitComments_returns h
  rw [← each_zipIdx _ _ k] at himported
  have none {α β : Type} (xs : List α) : (xs.flatMap fun _ => ([] : List β)) = [] :=
    List.flatMap_eq_nil_iff.2 fun _ _ => rfl
  have gathered : Delivery.gather (imported.map fun cs => ⟨cs, .empty⟩) =
      ⟨imported.flatten, .empty⟩ := by
    simp only [Delivery.gather, List.flatMap_map, List.map_map, Function.comp_def, List.flatMap_id',
      MemberParts.gather, MemberParts.empty, none]
  have first := Delivers.of_each (fun cs => ⟨cs, .empty⟩) step himported
  have unit : Occurrence.recipient ⟨n, []⟩ = .unit := by
    rw [Occurrence.recipient, Occurrence.own?_of_unit hn]
    rfl
  have last : Delivers .unit .unit l₁ [.own ⟨n, []⟩] [] ⟨own, .empty⟩ l₂ := .of_claim unit hown
  have all := first.append last
  -- every node has had its turn, so the sweep through the whole unit finds nothing
  have swept : n.subtreeComments ⊆ l₂.claimed := by
    rw [all.ledger]
    exact fun c hc => covered (n.subtreeComments_perm.mem_iff.1 hc)
  obtain ⟨rfl, rfl⟩ := returns_claim.1 hrest
  rw [Ledger.fresh_of_subset swept, Ledger.claimAll_of_subset swept]
  rw [gathered, none] at all
  simpa only [Delivery.append, MemberParts.append, MemberParts.empty, List.append_nil] using all

end Unit

/-! ## Buckets -/

structure Bucket where
  recipient : Recipient
  comments : List Comment

/-- The buckets of a unit whose elements know where they come from. -/
def OrdinaryUnit.bucketsOf (u : OrdinaryUnit (List Comment)) (types : List (TypeElement Stamp)) :
    List Bucket :=
  ⟨.package, u.packageComments⟩ :: ⟨.unit, u.unit.comments⟩ ::
    (types.flatMap (·.elements)).map fun e => ⟨.element e.comments.place, e.comments.comments⟩

/-- All that is counted in a unit is offered to whom it is counted for, in the order of the
schedule. -/
theorem collectOrdinaryUnit_delivers {n : Node} {name : String} {parts : UnitParts}
    {u : OrdinaryUnit (List Comment)} {l m : Ledger} (hparts : n.unitParts = .ok parts)
    (formed : parts.WellFormed) (fields : n.DeclaresFields)
    (h : (collectOrdinaryUnit n name).Returns l u m) :
    m = l.after n.unitSchedule ∧ ∃ types : List (TypeElement Stamp),
      types.map (·.map Stamp.comments) = u.unit.types ∧
      (types.flatMap fun t => (t.map Stamp.origin).declarations .unit).Perm n.declarations ∧
      ∀ b ∈ u.bucketsOf types, ∀ c ∈ b.comments, l.Offers n.unitSchedule b.recipient c := by
  obtain ⟨package, imports, types, _, elements, l₁, _, forUnit, forPackage, l₂, rest, hn, -,
    helements, -, hpackage, hrest, rfl⟩ := collectOrdinaryUnit_returns h
  obtain rfl : parts = ⟨package, imports, types, none⟩ := by
    simpa [Node.unitParts, hn] using hparts.symm
  have declared := unitTypes_deliver hn (package.toList ++ imports).length formed.types fields
    helements
  obtain ⟨rfl, forUnitOffered, forPackageOffered⟩ :=
    claimPackageComments_delivers hn formed.package hpackage
  obtain rfl := declared.ledger
  have schedule := Node.unitSchedule_eq hn
  have covered := Ledger.heldComments_subset_after l (Node.unitSchedule_perm hn)
  rw [schedule, Ledger.after_append, Ledger.after_append] at covered
  have last := claimUnitComments_delivers hn formed.imports hrest covered
  obtain ⟨⟨fieldsOf, methods, labelled⟩, plain, perm, elements⟩ := declared.parts
  simp only [StampedParts.plain, MemberParts.ofTypes, MemberParts.mk.injEq,
    List.map_eq_nil_iff] at plain
  obtain ⟨rfl, rfl, rfl⟩ := plain
  refine ⟨?_, labelled, rfl, ?_, fun b hb c hc => ?_⟩
  · simp only [last.ledger, schedule, Ledger.after_append]
  · rw [Node.declarations_eq, Node.rows_of_unit hn formed]
    simpa only [StampedParts.rows, TypeElement.declarations, List.map_nil, List.flatMap_nil,
      List.nil_append, List.filter_flatMap, List.filter_filter, Bool.and_self]
      using perm.filter (·.isDeclaration)
  rw [schedule]
  simp only [OrdinaryUnit.bucketsOf, List.mem_cons, List.mem_map] at hb
  rcases hb with rfl | rfl | ⟨e, he, rfl⟩
  · exact ((forPackageOffered c hc).append_right _).append_left
  · rcases List.mem_append.1 hc with hc | hc
    · exact ((forUnitOffered c hc).append_right _).append_left
    · exact (last.comments c hc).append_left.append_left
  · exact (elements e (by simpa [StampedParts.elements] using he) c hc).append_right _

/-! ## Who gets a comment -/

/-- Entries that share an item of a list without repetition are the same. -/
theorem eq_of_nodup_flatMap {α β : Type} (f : α → List β) {xs : List α}
    (nodup : (xs.flatMap f).Nodup) {x y : α} (hx : x ∈ xs) (hy : y ∈ xs) {d : β} (hd : d ∈ f x)
    (hd' : d ∈ f y) : x = y := by
  by_contra differ
  have : Std.Symm (Function.onFun List.Disjoint f) := ⟨fun _ _ h => h.symm⟩
  exact (List.nodup_flatMap.1 nodup).2.forall hx hy differ hd hd'

theorem Node.eq_of_mem_slots {n : Node} {above : Lineage} (once : n.heldComments.Nodup)
    {o d : Occurrence} (ho : o ∈ n.occurrences above) (hd : d ∈ n.occurrences above) {c : Comment}
    (hc : c ∈ o.node.slots.all) (hc' : c ∈ d.node.slots.all) : o = d := by
  rw [heldComments, ← n.nodes_occurrences above, List.flatMap_map] at once
  exact eq_of_nodup_flatMap (·.node.slots.all) once ho hd hc hc'

theorem OrdinaryUnit.map_bucketsOf {u : OrdinaryUnit (List Comment)}
    {types : List (TypeElement Stamp)} (plain : types.map (·.map Stamp.comments) = u.unit.types) :
    (u.bucketsOf types).map (·.comments) = (CollectedUnit.ordinary u).buckets := by
  simp only [bucketsOf, CollectedUnit.buckets, ← plain, List.map_cons, List.flatMap_map,
    TypeElement.elements_map, List.map_flatMap, List.map_map, Function.comp_def,
    Element.comments_map]

theorem OrdinaryUnit.nodup_recipients (u : OrdinaryUnit (List Comment)) {n : Node}
    {types : List (TypeElement Stamp)}
    (declarations : (types.flatMap fun t => (t.map Stamp.origin).declarations .unit).Perm
      n.declarations) : ((u.bucketsOf types).map (·.recipient)).Nodup := by
  have places := TypeElement.nodup_places (types.map (·.map Stamp.origin)) (n := n)
    (by simpa only [List.flatMap_map] using declarations)
  simp only [List.flatMap_map, TypeElement.elements_map, List.map_flatMap, List.map_map,
    Function.comp_def, Element.comments_map, Stamp.origin] at places
  have elements := places.map (f := Recipient.element) fun _ _ h => by cases h; rfl
  simp only [List.map_flatMap, List.map_map, Function.comp_def] at elements
  simp only [bucketsOf, List.map_cons, List.map_map, List.map_flatMap, Function.comp_def,
    List.nodup_cons]
  refine ⟨?_, ?_, elements⟩ <;> simp

/-- The comment stands free in the node and goes to a child that is a declaration of the
recipient: it is adjacent to the child among those that are left when the turn of the child
comes. -/
def Occurrence.Releases (o : Occurrence) (root : Node) (r : Recipient) (c : Comment) : Prop :=
  c ∈ o.node.slots.orphans ∧ ∃ d i, o.node.children[i]? = some d.node ∧
    d.above = ⟨o.node, i⟩ :: o.above ∧ d.own? = some r ∧
    ∃ before rest : List ClaimStep, root.unitSchedule = before ++ ClaimStep.adjacent d :: rest ∧
      c ∈ adjacentComments d.node ((Ledger.empty.after before).unclaimedOrphans o.node)

/-- Whom a step offers a comment that one node holds. -/
theorem Occurrence.recipient_of_offers {n : Node} {o : Occurrence} {r : Recipient} {c : Comment}
    {package : Option Node} {imports types : List Node}
    (hn : n.construct = .compilationUnit package imports types none)
    (once : n.heldComments.Nodup) (ho : o ∈ n.occurrences []) (hc : c ∈ o.node.slots.all)
    (offers : Ledger.empty.Offers n.unitSchedule r c) : r = o.recipient ∨ o.Releases n r c := by
  obtain ⟨before, s, rest, schedule, recipient, offered⟩ := offers
  have hs : s ∈ n.schedule [] := by
    rw [← (Node.unitSchedule_perm hn).mem_iff, schedule]
    simp
  obtain ⟨hs, declared⟩ := Node.occurrence_of_mem_schedule hs
  have holds (h : c ∈ s.occurrence.node.slots.all) : r = o.recipient := by
    rw [Node.eq_of_mem_slots once ho hs hc h, recipient]
  -- Only what is adjacent to a node is claimed from elsewhere, and it comes from the node above.
  cases s with
  | adjacent d =>
    have own := declared d rfl
    rcases Node.parent_of_mem_occurrences hs with root | ⟨p, hp, i, child, above⟩
    · obtain rfl : d = ⟨n, []⟩ := root
      rw [Occurrence.own?_of_unit hn] at own
      cases own
    have parent : d.parent = p.node := by
      rw [Occurrence.parent, show d.above = _ from above]
    simp only [ClaimStep.offered, Ledger.adjacentOrphans, parent] at offered
    have orphan : c ∈ p.node.slots.orphans :=
      (List.mem_filter.1 (mem_of_mem_adjacentComments offered)).1
    obtain rfl := Node.eq_of_mem_slots once ho hp hc (List.mem_append_right _ orphan)
    obtain ⟨r', hr⟩ := Option.isSome_iff_exists.1 own
    obtain rfl : r' = r := (Occurrence.recipient_of_own hr).symm.trans recipient
    exact .inr ⟨orphan, d, i, child, above, hr, before, rest, schedule, offered⟩
  | attached d => exact .inl (holds (List.mem_append_left _ offered))
  | own d => exact .inl (holds (d.node.ownComments_perm.mem_iff.1 offered))

/-- Attribution is local. The elements of a unit can be given places in its tree such that they
come from the declarations in these places. Then each comment is in one bucket, and that is the
bucket of the recipient that is responsible for the node which holds the comment, or of a child
that the node releases it to. -/
theorem collectOrdinaryUnit_attribution {n : Node} {name : String} {parts : UnitParts}
    {u : OrdinaryUnit (List Comment)} {m : Ledger} (hparts : n.unitParts = .ok parts)
    (formed : parts.WellFormed) (once : n.heldComments.Nodup) (fields : n.DeclaresFields)
    (h : (collectOrdinaryUnit n name).Returns .empty u m) :
    ∃ types : List (TypeElement Stamp),
      types.map (·.map Stamp.comments) = u.unit.types ∧
      (types.flatMap fun t => (t.map Stamp.origin).declarations .unit).Perm n.declarations ∧
      ((u.bucketsOf types).map (·.recipient)).Nodup ∧
      m = Ledger.empty.after n.unitSchedule ∧
      ∀ o ∈ n.occurrences [], ∀ c ∈ o.node.slots.all, ∃ b ∈ u.bucketsOf types,
        (∀ b' ∈ u.bucketsOf types, c ∈ b'.comments ↔ b' = b) ∧
          (b.recipient = o.recipient ∨ o.Releases n b.recipient c) := by
  obtain ⟨ledger, types, plain, declarations, offered⟩ :=
    collectOrdinaryUnit_delivers hparts formed fields h
  obtain ⟨_, _, _, _, _, _, _, _, _, _, _, hn, -⟩ := collectOrdinaryUnit_returns h
  refine ⟨types, plain, declarations, u.nodup_recipients declarations, ledger, fun o ho c hc => ?_⟩
  have balance := (collectOrdinaryUnit_claims h).balance
  rw [← OrdinaryUnit.map_bucketsOf plain, ← List.flatMap_def] at balance
  have claimed : c ∈ m.claimed := by
    rw [ledger]
    refine Ledger.heldComments_subset_after _ (Node.unitSchedule_perm hn) ?_
    refine Node.slots_subset_heldComments ?_ hc
    rw [← n.nodes_occurrences []]
    exact List.mem_map_of_mem ho
  obtain ⟨b, hb, held⟩ := List.mem_flatMap.1 (balance.mem_iff.1 claimed)
  refine ⟨b, hb, fun b' hb' => ⟨fun held' => ?_, ?_⟩, ?_⟩
  · exact eq_of_nodup_flatMap _ (balance.nodup_iff.1 m.distinct) hb' hb held' held
  · rintro rfl
    exact held
  · exact Occurrence.recipient_of_offers hn once ho hc (offered b hb c held)

/-- A class with a remark right above its fields, one that stands alone and one that is placed on a
method. -/
def remarkedUnit : Node :=
  let remark (number : Nat) (line : Int) : Comment :=
    ⟨number, .line, "remark", .ofLines line 1 line 9⟩
  let fields : Node := .bare (.ofLines 5 1 5 9) (.fieldDeclaration "int"
    [.bare (.ofLines 5 5 5 6) (.variableDeclarator "a" none),
      .bare (.ofLines 5 8 5 9) (.variableDeclarator "b" none)] [])
  let method : Node := ⟨.ofLines 10 1 10 19, ⟨some (remark 3 9), none, []⟩,
    .callable (.method "void") "f" [] none [.abstract]⟩
  ⟨.ofLines 1 1 12 2, ⟨none, none, [remark 0 1]⟩, .compilationUnit none []
    [⟨.ofLines 3 1 12 2, ⟨none, none, [remark 1 4, remark 2 7]⟩,
      .typeDeclaration .class "A" [] [fields, method]⟩] none⟩

theorem collectOrdinaryUnit_remarkedUnit : ∃ u m,
    (collectOrdinaryUnit remarkedUnit "A").Returns .empty u m ∧
    ∃ types : List (TypeElement Stamp),
      types.map (·.map Stamp.comments) = u.unit.types ∧
      (types.flatMap fun t => (t.map Stamp.origin).declarations .unit).Perm
        remarkedUnit.declarations ∧
      ((u.bucketsOf types).map (·.recipient)).Nodup ∧
      m = Ledger.empty.after remarkedUnit.unitSchedule ∧
      ∀ o ∈ remarkedUnit.occurrences [], ∀ c ∈ o.node.slots.all, ∃ b ∈ u.bucketsOf types,
        (∀ b' ∈ u.bucketsOf types, c ∈ b'.comments ↔ b' = b) ∧
          (b.recipient = o.recipient ∨ o.Releases remarkedUnit b.recipient c) := by
  obtain ⟨u, m, h⟩ := exists_returns (x := collectOrdinaryUnit remarkedUnit "A") (l := .empty)
    (by cbv)
  have numbers : remarkedUnit.heldComments.map (·.number) = [0, 1, 2, 3] := by cbv
  have once : remarkedUnit.heldComments.Nodup := .of_map (·.number) (by rw [numbers]; decide)
  have declaring : remarkedUnit.walk.all (fun f =>
      !f.construct.isFieldDeclaration || !f.fieldVariables.isEmpty) = true := by cbv
  have fields : remarkedUnit.DeclaresFields := by
    intro f hf field
    have declares := List.all_eq_true.1 declaring f hf
    rw [field] at declares
    simpa using declares
  refine ⟨u, m, h, collectOrdinaryUnit_attribution rfl
    ⟨fun p hp => absurd hp (Option.not_mem_none p), List.forall_mem_nil _, fun t ht => ?_⟩ once
    fields h⟩
  obtain rfl := List.mem_singleton.1 ht
  rfl

end JavaCensus
