import JavaCensus.Proofs.Collecting
import JavaCensus.Proofs.Elements
import JavaCensus.Proofs.Walks

/-!
# What is claimed, and what elements hold

The ledger and the elements agree: whatever a run enters in the ledger is held by the elements that
the run gives, and all of it stands in the tree. Every collecting function keeps this balance, from
claiming a list of comments up to a whole unit.
-/
namespace JavaCensus

/-- What was claimed between two ledgers is what is held, and all of it is known. -/
structure Claims (known : List Comment) (before : Ledger) (held : List Comment)
    (after : Ledger) : Prop where
  balance : after.claimed.Perm (before.claimed ++ held)
  subset : held ⊆ known

namespace Claims

variable {S : List Comment} {l m n : Ledger} {a b : List Comment}

theorem refl (S : List Comment) (l : Ledger) : Claims S l [] l where
  balance := by rw [List.append_nil]
  subset := List.nil_subset _

theorem trans (h : Claims S l a m) (k : Claims S m b n) : Claims S l (a ++ b) n where
  balance := by
    rw [← List.append_assoc]
    exact k.balance.trans (h.balance.append_right b)
  subset := List.append_subset.2 ⟨h.subset, k.subset⟩

theorem perm (h : Claims S l a m) (p : a.Perm b) : Claims S l b m where
  balance := h.balance.trans (p.append_left _)
  subset := fun _ hc => h.subset (p.mem_iff.2 hc)

end Claims

open Attribution

section Steps

variable {S : List Comment} {l m : Ledger}

/-- Only what is not in the ledger yet is claimed. -/
theorem Ledger.fresh_subset (l : Ledger) (cs : List Comment) : l.fresh cs ⊆ cs := by
  intro c hc
  have eq := l.claimed_claimAll cs
  have nodup := (l.claimAll cs).distinct
  rw [eq, List.nodup_append] at nodup
  have mem : c ∈ (l.claimAll cs).claimed := by
    rw [eq]
    exact List.mem_append_right _ hc
  rcases Ledger.mem_claimAll.1 mem with h | h
  · exact absurd rfl (nodup.2.2 c h c hc)
  · exact h

theorem claim_claims {cs ds : List Comment} (known : cs ⊆ S)
    (h : (claim cs).Returns l ds m) : Claims S l ds m := by
  obtain ⟨rfl, rfl⟩ := returns_claim.1 h
  exact ⟨by rw [l.claimed_claimAll cs], fun _ hc => known (l.fresh_subset cs hc)⟩

theorem claimAdjacent_claims {n parent : Node} {ds : List Comment}
    (known : parent.slots.orphans ⊆ S) (h : (claimAdjacent n parent).Returns l ds m) :
    Claims S l ds m := by
  refine claim_claims (fun c hc => known ?_) (returns_claimAdjacent.1 h)
  exact (List.mem_filter.1 (mem_of_mem_adjacentComments hc)).1

theorem claimOwn_claims {n : Node} {ds : List Comment} (known : n.slots.all ⊆ S)
    (h : (claimOwn n).Returns l ds m) : Claims S l ds m :=
  claim_claims (fun _ hc => known (n.ownComments_perm.mem_iff.1 hc)) h

theorem claimAttached_claims {n : Node} {ds : List Comment} (known : n.slots.all ⊆ S)
    (h : (claimAttached n).Returns l ds m) : Claims S l ds m :=
  claim_claims (fun _ hc => known (List.mem_append_left _ hc)) h

theorem claimSubtree_claims {n : Node} {ds : List Comment} (known : n.heldComments ⊆ S)
    (h : (claimSubtree n).Returns l ds m) : Claims S l ds m :=
  claim_claims (fun _ hc => known (n.subtreeComments_perm.mem_iff.1 hc)) h

/-- If each step of a list keeps the balance, the list does. -/
theorem each_claims {α β : Type} {f : α → Attribution β} {held : β → List Comment}
    {xs : List α} {ys : List β}
    (step : ∀ x ∈ xs, ∀ {l y m}, (f x).Returns l y m → Claims S l (held y) m)
    (h : (each xs fun a _ => f a).Returns l ys m) : Claims S l (ys.flatMap held) m := by
  induction xs generalizing l ys with
  | nil =>
    obtain ⟨rfl, rfl⟩ := returns_each_nil.1 h
    exact .refl S l
  | cons x xs ih =>
    obtain ⟨y, k, zs, hy, hzs, rfl⟩ := returns_each_cons.1 h
    rw [List.flatMap_cons]
    exact (step x (List.mem_cons_self ..) hy).trans
      (ih (fun a ha => step a (List.mem_cons_of_mem _ ha)) hzs)

end Steps

/-! ## What elements hold -/

/-- The comments of a type and of all that is declared in it. -/
def TypeElement.held (t : TypeOf) : List Comment :=
  t.elements.flatMap (·.comments)

def MethodElement.held (m : MethodOf) : List Comment :=
  m.elements.flatMap (·.comments)

def Tally.held (code : Tally TypeOf) : List Comment :=
  code.comments ++ code.types.flatMap (·.held)

def MemberParts.held (parts : MemberParts) : List Comment :=
  parts.fields.flatMap (·.comments) ++ parts.methods.flatMap (·.held) ++
    parts.innerTypes.flatMap (·.held)

theorem TypeElement.held_eq (t : TypeOf) : t.held =
    t.comments ++ (MemberParts.mk t.fields t.methods t.innerTypes).held := by
  rw [held, TypeElement.elements_eq]
  simp only [List.flatMap_append, List.flatMap_cons, List.flatMap_map, List.flatMap_assoc,
    MemberParts.held, List.append_assoc]
  rfl

theorem MethodElement.held_eq (m : MethodOf) :
    m.held = (Tally.mk 0 m.comments m.localTypes).held := by
  rw [held, MethodElement.elements_eq, List.flatMap_cons, List.flatMap_assoc]
  rfl

theorem Tally.held_gather (parts : List (Tally TypeOf)) :
    (parts.flatMap held).Perm (gather parts).held := by
  induction parts with
  | nil => exact .refl _
  | cons p parts ih =>
    rw [List.perm_iff_count] at ih ⊢
    intro c
    have := ih c
    simp only [gather, held, List.flatMap_cons, List.flatMap_append, List.count_append] at this ⊢
    omega

theorem MemberParts.held_gather (parts : List MemberParts) :
    (parts.flatMap held).Perm (gather parts).held := by
  induction parts with
  | nil => exact .refl _
  | cons p parts ih =>
    rw [List.perm_iff_count] at ih ⊢
    intro c
    have := ih c
    simp only [gather, held, List.flatMap_cons, List.flatMap_append, List.count_append] at this ⊢
    omega

/-! ## Declarations -/

section Declarations

variable {S : List Comment} {l m : Ledger}

/-- Collecting the type keeps the balance, wherever the type stands. -/
def KeepsBalance (S : List Comment) (t : Node) : Prop :=
  ∀ {parent : Node} {e : TypeOf} {l m : Ledger}, t.heldComments ⊆ S →
    parent.slots.orphans ⊆ S → (collectType t parent).Returns l e m → Claims S l e.held m

theorem collectInside_claims {n parent : Node} {code : Tally TypeOf}
    (types : ∀ t, sizeOf t ≤ sizeOf n → KeepsBalance S t) (hn : n.heldComments ⊆ S)
    (hp : parent.slots.orphans ⊆ S) (h : (collectInside n parent).Returns l code m) :
    Claims S l code.held m := by
  obtain ⟨parts, hparts, rfl⟩ := returns_collectInside.1 h
  refine (each_claims (fun e he {l y m} hy => ?_) hparts).perm (Tally.held_gather parts)
  cases e with
  | count k =>
    obtain ⟨rfl, rfl⟩ := returns_pure.1 hy
    exact .refl S l
  | claim k =>
    simp only [runVisit, returns_bind, returns_pure] at hy
    obtain ⟨own, _, hown, rfl, rfl⟩ := hy
    have hk := mem_walk_of_claim_mem_visits he
    have known : k.slots.all ⊆ S := fun c hc => hn (Node.slots_subset_heldComments hk hc)
    simpa [Tally.held] using claimOwn_claims known hown
  | type t p =>
    simp only [runVisit, returns_bind, returns_pure] at hy
    obtain ⟨e, _, he', rfl, rfl⟩ := hy
    obtain ⟨ht, hp'⟩ := mem_walk_of_type_mem_visits he
    have held : t.heldComments ⊆ S :=
      fun c hc => hn (Node.heldComments_subset_of_mem_walk ht hc)
    have orphans : p.slots.orphans ⊆ S := by
      rcases hp' with rfl | hp'
      · exact hp
      · exact fun c hc => hn (Node.orphans_subset_heldComments hp' hc)
    simpa [Tally.held] using types t (sizeOf_le_of_mem_visits n parent he) held orphans he'
  | fail e => exact absurd hy not_returns_throw

theorem collectRoots_claims {n : Node} {code : Tally TypeOf}
    (types : ∀ t, sizeOf t < sizeOf n → KeepsBalance S t) (hn : n.heldComments ⊆ S)
    (h : (collectRoots n).Returns l code m) : Claims S l code.held m := by
  obtain ⟨parts, hparts, rfl⟩ := returns_collectRoots.1 h
  refine (each_claims (fun c hc {l y m} hy => ?_) hparts).perm (Tally.held_gather parts)
  have hc := Node.mem_children_of_mem_codeRoots hc
  refine collectInside_claims (fun t ht => types t ?_) (fun d hd => hn ?_) (fun d hd => hn ?_) hy
  · exact Nat.lt_of_le_of_lt ht (Node.sizeOf_lt_of_mem_children hc)
  · exact Node.heldComments_subset_of_mem_children hc hd
  · exact Node.orphans_subset_heldComments n.mem_walk_self hd

theorem collectMethod_claims {n enclosing : Node} {e : MethodOf}
    (types : ∀ t, sizeOf t < sizeOf n → KeepsBalance S t) (hn : n.heldComments ⊆ S)
    (hp : enclosing.slots.orphans ⊆ S) (h : (collectMethod n enclosing).Returns l e m) :
    Claims S l e.held m := by
  obtain ⟨name, kind, above, l₁, code, l₂, own, l₃, rest, -, -, habove, hcode, hown, hrest, rfl⟩ :=
    collectMethod_returns h
  have slots : n.slots.all ⊆ S := fun c hc => hn (Node.slots_subset_heldComments n.mem_walk_self hc)
  have steps := (((claimAdjacent_claims hp habove).trans
    (collectRoots_claims types hn hcode)).trans (claimOwn_claims slots hown)).trans
      (claimSubtree_claims hn hrest)
  refine steps.perm ?_
  rw [MethodElement.held_eq, List.perm_iff_count]
  intro c
  simp only [MethodElement.comments, MethodElement.localTypes, Tally.held, List.count_append]
  omega

theorem claimShared_claims {declaration enclosing : Node} {isFirst : Bool} {cs : List Comment}
    (slots : declaration.slots.all ⊆ S) (hp : enclosing.slots.orphans ⊆ S)
    (h : (claimShared declaration enclosing isFirst).Returns l cs m) : Claims S l cs m := by
  cases isFirst with
  | true =>
    simp only [claimShared, returns_bind, returns_pure] at h
    obtain ⟨above, l₁, habove, attached, _, hattached, rfl, rfl⟩ := h
    exact (claimAdjacent_claims hp habove).trans (claimAttached_claims slots hattached)
  | false =>
    obtain ⟨rfl, rfl⟩ := returns_pure.1 h
    exact .refl S l

/-- The comments of a variable and of the types in its initializer. -/
def DeclaratorParts.held (parts : DeclaratorParts) : List Comment :=
  parts.field.comments ++ parts.types.flatMap (·.held)

theorem DeclaratorParts.held_flatMap (parts : List DeclaratorParts) : (parts.flatMap (·.held)).Perm
    (MemberParts.mk (parts.map (·.field)) [] (parts.flatMap (·.types))).held := by
  induction parts with
  | nil => exact .refl _
  | cons p parts ih =>
    rw [List.perm_iff_count] at ih ⊢
    intro c
    have := ih c
    simp only [held, MemberParts.held, List.flatMap_cons, List.flatMap_nil, List.map_cons,
      List.flatMap_append, List.count_append, List.count_nil] at this ⊢
    omega

theorem collectVariable_claims {declaration enclosing : Node} {kind : FieldKind} {v : Node × Nat}
    {e : DeclaratorParts} (types : ∀ t, sizeOf t < sizeOf v.1 → KeepsBalance S t)
    (hd : declaration.heldComments ⊆ S) (hv : v.1 ∈ declaration.children)
    (hp : enclosing.slots.orphans ⊆ S)
    (h : (collectVariable declaration enclosing kind v).Returns l e m) :
    Claims S l e.held m := by
  obtain ⟨name, shared, l₁, above, l₂, initializer, code, l₃, own, -, hshared, habove, -, hcode,
    hown, rfl⟩ := collectVariable_returns h
  have hv' : v.1.heldComments ⊆ S :=
    fun c hc => hd (Node.heldComments_subset_of_mem_children hv hc)
  have slots {n : Node} (hn : n.heldComments ⊆ S) : n.slots.all ⊆ S :=
    fun c hc => hn (Node.slots_subset_heldComments n.mem_walk_self hc)
  have orphans : declaration.slots.orphans ⊆ S :=
    fun c hc => hd (Node.orphans_subset_heldComments declaration.mem_walk_self hc)
  have steps := (((claimShared_claims (slots hd) hp hshared).trans
    (claimAdjacent_claims orphans habove)).trans (collectRoots_claims types hv' hcode)).trans
      (claimOwn_claims (slots hv') hown)
  refine steps.perm ?_
  rw [List.perm_iff_count]
  intro c
  simp only [DeclaratorParts.held, Tally.held, List.count_append]
  omega

theorem flatMap_comments_addToFirst (rest : List Comment) {fields : List FieldOf}
    (h : fields = [] → rest = []) :
    ((addToFirst rest fields).flatMap (·.comments)).Perm (fields.flatMap (·.comments) ++ rest) := by
  cases fields with
  | nil => simp [addToFirst, h rfl]
  | cons f fields =>
    rw [addToFirst, List.flatMap_cons, List.flatMap_cons, List.perm_iff_count]
    intro c
    simp only [List.count_append]
    omega

theorem collectFields_claims {n enclosing : Node} {e : MemberParts}
    (types : ∀ t, sizeOf t < sizeOf n → KeepsBalance S t) (hn : n.heldComments ⊆ S)
    (hp : enclosing.slots.orphans ⊆ S) (h : (collectFields n enclosing).Returns l e m) :
    Claims S l e.held m := by
  obtain ⟨kind, parts, l₁, rest, -, hparts, hrest, rfl⟩ := collectFields_returns h
  have declarators : Claims S l (parts.flatMap (·.held)) l₁ := by
    refine each_claims (fun v hv {l y m} hy => ?_) hparts
    have hv : v.1 ∈ n.children :=
      Node.mem_children_of_mem_fieldVariables (List.fst_mem_of_mem_zipIdx hv)
    exact collectVariable_claims
      (fun t ht => types t (Nat.lt_trans ht (Node.sizeOf_lt_of_mem_children hv))) hn hv hp hy
  have slots : n.slots.all ⊆ S := fun c hc => hn (Node.slots_subset_heldComments n.mem_walk_self hc)
  have held : Claims S l₁ rest m ∧ (parts.map (·.field) = [] → rest = []) := by
    split at hrest
    · obtain ⟨rfl, rfl⟩ := returns_pure.1 hrest
      exact ⟨.refl S _, fun _ => rfl⟩
    · rename_i hne
      refine ⟨claimOwn_claims slots hrest, fun h => ?_⟩
      simp [List.map_eq_nil_iff.1 h] at hne
  refine (declarators.trans held.1).perm ?_
  have all := DeclaratorParts.held_flatMap parts
  have first := flatMap_comments_addToFirst rest held.2
  rw [List.perm_iff_count] at all first ⊢
  intro c
  have all := all c
  have first := first c
  simp only [MemberParts.held, List.flatMap_nil, List.count_append, List.count_nil] at all first ⊢
  omega

theorem collectFieldLike_claims {n enclosing : Node} {e : MemberParts}
    (types : ∀ t, sizeOf t < sizeOf n → KeepsBalance S t) (hn : n.heldComments ⊆ S)
    (hp : enclosing.slots.orphans ⊆ S) (h : (collectFieldLike n enclosing).Returns l e m) :
    Claims S l e.held m := by
  obtain ⟨name, kind, above, l₁, code, l₂, own, -, -, habove, hcode, hown, rfl⟩ :=
    collectFieldLike_returns h
  have slots : n.slots.all ⊆ S := fun c hc => hn (Node.slots_subset_heldComments n.mem_walk_self hc)
  have steps := ((claimAdjacent_claims hp habove).trans
    (collectRoots_claims types hn hcode)).trans (claimOwn_claims slots hown)
  refine steps.perm ?_
  rw [List.perm_iff_count]
  intro c
  simp only [MemberParts.held, Tally.held, List.flatMap_cons, List.flatMap_nil, List.count_append,
    List.count_nil]
  omega

theorem collectMember_claims {n enclosing : Node} {parts : MemberParts}
    (types : ∀ t, sizeOf t ≤ sizeOf n → KeepsBalance S t) (hn : n.heldComments ⊆ S)
    (hp : enclosing.slots.orphans ⊆ S) (h : (collectMember n enclosing).Returns l parts m) :
    Claims S l parts.held m := by
  have below (t : Node) (ht : sizeOf t < sizeOf n) : KeepsBalance S t :=
    types t (Nat.le_of_lt ht)
  have cases := collectMember_returns h
  split at cases
  · exact collectFields_claims below hn hp cases
  · obtain ⟨e, he, rfl⟩ := cases
    simpa [MemberParts.held] using collectMethod_claims below hn hp he
  · exact collectFieldLike_claims below hn hp cases
  · obtain ⟨t, ht, rfl⟩ := cases
    simpa [MemberParts.held] using types n (Nat.le_refl _) hn hp ht
  · exact cases.elim

/-- A type holds what its collection claims, and claims nothing from outside of its subtree but
orphans of the node that holds it. -/
theorem collectType_claims (S : List Comment) (n : Node) : KeepsBalance S n := by
  -- The types met in code are no children, so the induction is on the size.
  induction h : sizeOf n using Nat.strongRecOn generalizing n with
  | ind size ih =>
    subst h
    have types (t : Node) (ht : sizeOf t < sizeOf n) : KeepsBalance S t := ih _ ht t rfl
    intro parent e l m hn hp h
    obtain ⟨name, kind, above, l₁, code, l₂, parts, l₃, own, -, -, habove, hcode, hparts, hown,
      rfl⟩ := collectType_returns h
    have slots : n.slots.all ⊆ S :=
      fun c hc => hn (Node.slots_subset_heldComments n.mem_walk_self hc)
    have orphans : n.slots.orphans ⊆ S :=
      fun c hc => hn (Node.orphans_subset_heldComments n.mem_walk_self hc)
    have members : Claims S l₂ (parts.flatMap (·.held)) l₃ := by
      refine each_claims (fun c hc {l y m} hy => ?_) hparts
      have hc := Node.mem_children_of_mem_typeMembers hc
      have held : c.heldComments ⊆ S :=
        fun d hd => hn (Node.heldComments_subset_of_mem_children hc hd)
      exact collectMember_claims (fun t ht => types t
        (Nat.lt_of_le_of_lt ht (Node.sizeOf_lt_of_mem_children hc))) held orphans hy
    have steps := (((claimAdjacent_claims hp habove).trans
      (collectRoots_claims types hn hcode)).trans
        (members.perm (MemberParts.held_gather parts))).trans (claimOwn_claims slots hown)
    refine steps.perm ?_
    rw [TypeElement.held_eq, List.perm_iff_count]
    intro c
    simp only [TypeElement.comments, TypeElement.fields, TypeElement.methods,
      TypeElement.innerTypes, MemberParts.held, Tally.held, List.flatMap_append, List.count_append]
    omega

end Declarations

/-! ## Units -/

section Units

variable {l m : Ledger} {n : Node} {name : String}

theorem claimUnitComments_claims {imports : List Node} {cs : List Comment}
    (himports : ∀ i ∈ imports, i ∈ n.children)
    (h : (claimUnitComments n imports).Returns l cs m) : Claims n.heldComments l cs m := by
  obtain ⟨imported, l₁, own, l₂, rest, himported, hown, hrest, rfl⟩ := claimUnitComments_returns h
  have first : Claims n.heldComments l (imported.flatMap id) l₁ :=
    each_claims (fun i hi {l y m} hy => claimOwn_claims (Node.slots_subset_heldComments
      (Node.mem_walk_of_mem_children (himports i hi) i.mem_walk_self)) hy) himported
  have own := claimOwn_claims (Node.slots_subset_heldComments n.mem_walk_self) hown
  rw [List.flatMap_id] at first
  exact (first.trans own).trans (claimSubtree_claims (List.Subset.refl _) hrest)

theorem claimPackageComments_claims {package : Option Node} {hasTypes : Bool}
    {held : List Comment × List Comment} (hpackage : ∀ p ∈ package, p ∈ n.children)
    (h : (claimPackageComments n package hasTypes).Returns l held m) :
    Claims n.heldComments l (held.1 ++ held.2) m := by
  cases package with
  | none =>
    obtain ⟨rfl, rfl⟩ := returns_pure.1 h
    exact .refl _ l
  | some p =>
    have known : p.slots.all ⊆ n.heldComments := Node.slots_subset_heldComments
      (Node.mem_walk_of_mem_children (hpackage p rfl) p.mem_walk_self)
    have orphans := Node.orphans_subset_heldComments n.mem_walk_self
    cases hasTypes with
    | true =>
      obtain ⟨own, _, hown, h⟩ := returns_bind.1 h
      obtain ⟨rfl, rfl⟩ := returns_pure.1 h
      simpa using claimOwn_claims known hown
    | false =>
      obtain ⟨above, l₁, habove, h⟩ := returns_bind.1 h
      obtain ⟨own, _, hown, h⟩ := returns_bind.1 h
      obtain ⟨rfl, rfl⟩ := returns_pure.1 h
      exact (claimAdjacent_claims orphans habove).trans (claimOwn_claims known hown)

theorem collectOrdinaryUnit_claims {u : OrdinaryUnit (List Comment)}
    (h : (collectOrdinaryUnit n name).Returns l u m) :
    Claims n.heldComments l (CollectedUnit.ordinary u).buckets.flatten m := by
  obtain ⟨package, imports, types, element, elements, l₁, packageText, forUnit, forPackage, l₂,
    rest, hn, -, helements, -, hheld, hrest, rfl⟩ := collectOrdinaryUnit_returns h
  have children : n.children = package.toList ++ imports ++ types := by
    simp [Node.children, hn, Construct.children]
  have declared : Claims n.heldComments l (elements.flatMap (·.held)) l₁ := by
    refine each_claims (fun t ht {l y m} hy => ?_) helements
    have ht : t ∈ n.children := by simp [children, ht]
    exact collectType_claims n.heldComments t (Node.heldComments_subset_of_mem_children ht)
      (Node.orphans_subset_heldComments n.mem_walk_self) hy
  have package := claimPackageComments_claims
    (fun p hp => by simp [children, Option.mem_def.1 hp]) hheld
  have unit := claimUnitComments_claims (fun i hi => by simp [children, hi]) hrest
  refine ((declared.trans package).trans unit).perm ?_
  have buckets : (CollectedUnit.ordinary (OrdinaryUnit.mk packageText
      ⟨element, forUnit ++ rest, elements⟩ forPackage)).buckets.flatten =
        forPackage ++ (forUnit ++ rest) ++ elements.flatMap (·.held) := by
    simp only [CollectedUnit.buckets, List.flatten_cons, ← List.flatMap_def, List.flatMap_assoc,
      List.append_assoc]
    rfl
  rw [buckets, List.perm_iff_count]
  intro c
  simp only [List.count_append]
  omega

theorem collectModule_claims {declaration : Node} {e : ModuleElement (List Comment)}
    (hd : declaration ∈ n.children) (h : (collectModule declaration n).Returns l e m) :
    Claims n.heldComments l e.comments m := by
  obtain ⟨moduleName, isOpen, directives, above, l₁, parts, l₂, own, hn, habove, hparts, hown,
    hcomments⟩ := collectModule_returns h
  have walk : declaration ∈ n.walk :=
    Node.mem_walk_of_mem_children hd declaration.mem_walk_self
  have directives : Claims n.heldComments l₁ (parts.flatMap (·.2)) l₂ := by
    refine each_claims (fun d hd {l y m} hy => ?_) hparts
    simp only [returns_bind, returns_require, returns_pure] at hy
    obtain ⟨_, _, ⟨_, rfl⟩, comments, _, hcomments, rfl, rfl⟩ := hy
    have hd : d ∈ declaration.children := by simpa [Node.children, hn, Construct.children] using hd
    exact claimOwn_claims (Node.slots_subset_heldComments (Node.mem_walk_trans walk
      (Node.mem_walk_of_mem_children hd d.mem_walk_self))) hcomments
  have above := claimAdjacent_claims (Node.orphans_subset_heldComments n.mem_walk_self) habove
  have own := claimOwn_claims (Node.slots_subset_heldComments walk) hown
  rw [hcomments, ← List.flatMap_def]
  exact (above.trans directives).trans own

theorem collectModularUnit_claims {u : ModularUnitElement (List Comment)}
    (h : (collectModularUnit n name).Returns l u m) :
    Claims n.heldComments l (CollectedUnit.modular u).buckets.flatten m := by
  obtain ⟨package, imports, types, declaration, module, l₁, element, rest, hn, hmodule, -, hrest,
    rfl⟩ := collectModularUnit_returns h
  have children : n.children = package.toList ++ imports ++ [declaration] ++ types := by
    simp [Node.children, hn, Construct.children]
  have module := collectModule_claims (by simp [children]) hmodule
  have unit := claimUnitComments_claims (fun i hi => by simp [children, hi]) hrest
  refine (module.trans unit).perm ?_
  simpa [CollectedUnit.buckets] using List.perm_append_comm

/-- What a unit holds is what its collection claims. -/
theorem collectUnit_claims {u : CollectedUnit (List Comment)}
    (h : (collectUnit n name).Returns l u m) :
    Claims n.heldComments l u.buckets.flatten m := by
  rcases collectUnit_returns h with ⟨v, hv, rfl⟩ | ⟨v, hv, rfl⟩
  · exact collectOrdinaryUnit_claims hv
  · exact collectModularUnit_claims hv

/-- The last step of a unit claims all that is left, so nothing stays unclaimed. -/
theorem heldComments_subset_of_collectUnit {u : CollectedUnit (List Comment)}
    (h : (collectUnit n name).Returns l u m) : n.heldComments ⊆ m.claimed := by
  have last {l : Ledger} {imports : List Node} {cs : List Comment}
      (h : (claimUnitComments n imports).Returns l cs m) : n.heldComments ⊆ m.claimed := by
    obtain ⟨_, _, _, l₂, rest, _, _, hrest, rfl⟩ := claimUnitComments_returns h
    obtain ⟨_, rfl⟩ := returns_claim.1 hrest
    intro c hc
    exact Ledger.mem_claimAll.2 (.inr (n.subtreeComments_perm.mem_iff.2 hc))
  rcases collectUnit_returns h with ⟨v, hv, rfl⟩ | ⟨v, hv, rfl⟩
  · obtain ⟨_, _, _, _, _, _, _, _, _, _, _, _, _, _, _, _, hrest, _⟩ :=
      collectOrdinaryUnit_returns hv
    exact last hrest
  · obtain ⟨_, _, _, _, _, _, _, _, _, _, _, hrest, _⟩ := collectModularUnit_returns hv
    exact last hrest

end Units

end JavaCensus
