import JavaCensus.Proofs.Ownership

/-!
# Who is responsible for a comment, and when it is claimed

Every node of a unit has a recipient that is responsible for it, found by going up from the node.
The schedule of a tree lists the steps in which comments are claimed while the tree is collected,
each with the recipient that it is made for. No step is made for a whole subtree: once the steps of
a tree have been made, none of its comments is left.
-/
namespace JavaCensus

/-- What a comment can be counted for. -/
inductive Recipient where
  | package
  | unit
  | element (place : Place)
  deriving DecidableEq, Repr

namespace Occurrence

/-- The package declaration of a unit without types documents its package. -/
def documentsPackage (o : Occurrence) : Bool :=
  match o.node.construct, o.above with
  | .packageDeclaration _, [s] => (s.parent.construct matches .compilationUnit _ _ [] _)
  | _, _ => false

/-- The recipient that a declaration brings with it: types, methods, initializers, constants,
annotation elements and variables have one of their own, and a field declaration has that of its
first variable. -/
def own? (o : Occurrence) : Option Recipient :=
  if o.above.isVariable then some (.element o.above.place)
  else if o.node.construct.isFieldDeclaration then some (.element (0 :: o.above.place))
  else if o.node.construct.elementSort?.isSome then some (.element o.above.place)
  else if o.documentsPackage then some .package
  else none

end Occurrence

/-- The recipient that is responsible for code at the end of the way down, that of the nearest
declaration above it. The arguments of an object creation are outside of the class that it
declares, those of a constant with a body are not. -/
def Lineage.surroundings : Lineage → Recipient
  | [] => .unit
  | s :: above =>
    if s.index < s.parent.creationArguments.length then surroundings above
    else (Occurrence.own? ⟨s.parent, above⟩).getD (surroundings above)

/-- The recipient that is responsible for a node. -/
def Occurrence.recipient (o : Occurrence) : Recipient :=
  o.own?.getD o.above.surroundings

namespace Lineage

variable {n : Node} {above : Lineage} {i : Nat}

theorem surroundings_of_own {r : Recipient} (own : Occurrence.own? ⟨n, above⟩ = some r)
    (hi : n.creationArguments.length ≤ i) : surroundings (⟨n, i⟩ :: above) = r := by
  rw [surroundings, if_neg (Nat.not_lt_of_le hi), own, Option.getD_some]

theorem surroundings_of_outer
    (h : Occurrence.own? ⟨n, above⟩ = none ∨ i < n.creationArguments.length) :
    surroundings (⟨n, i⟩ :: above) = above.surroundings := by
  rw [surroundings]
  split
  · rfl
  · rename_i hi
    rw [h.resolve_right hi, Option.getD_none]

end Lineage

namespace Occurrence

variable {o : Occurrence}

theorem recipient_of_own {r : Recipient} (own : o.own? = some r) : o.recipient = r := by
  rw [recipient, own, Option.getD_some]

theorem own?_of_variable (h : o.above.isVariable = true) :
    o.own? = some (.element o.above.place) := by
  rw [own?, if_pos h]

theorem own?_of_elementSort? {sort : ElementSort}
    (field : o.node.construct.isFieldDeclaration = false) (h : o.node.construct.elementSort? = some sort) : o.own? = some (.element o.above.place) := by
  simp [own?, field, h]

theorem own?_of_isFieldDeclaration (entered : o.above.isVariable = false)
    (h : o.node.construct.isFieldDeclaration = true) :
    o.own? = some (.element (0 :: o.above.place)) := by
  simp [own?, entered, h]

theorem own?_of_codeRole (entered : o.above.isVariable = false)
    (h : o.node.construct.codeRole = .counted ∨ o.node.construct.codeRole = .passedThrough) :
    o.own? = none ∧ o.node.construct.isFieldDeclaration = false := by
  have sort := Construct.elementSort?_of_codeRole h
  have field : o.node.construct.isFieldDeclaration = false := by
    unfold Construct.isFieldDeclaration
    split
    · rename_i hn
      simp [hn, Construct.codeRole] at h
    · rfl
  have package : o.documentsPackage = false := by
    unfold documentsPackage
    split
    · rename_i hn _
      simp [hn, Construct.codeRole] at h
    · rfl
  simp [own?, entered, sort, field, package]

end Occurrence

/-! ## Steps -/

/-- A step in which comments are claimed: the orphans of the node above that are adjacent to a
node, what is attached to a node, or all that is placed on it. -/
inductive ClaimStep where
  | adjacent (o : Occurrence)
  | attached (o : Occurrence)
  | own (o : Occurrence)

namespace ClaimStep

def occurrence : ClaimStep → Occurrence
  | adjacent o | attached o | own o => o

/-- The comments that are claimed, unless they are claimed already. -/
def offered (l : Ledger) : ClaimStep → List Comment
  | adjacent o => l.adjacentOrphans o.node o.parent
  | attached o => o.node.attachedComments
  | own o => o.node.ownComments

end ClaimStep

namespace Ledger

/-- The ledger after steps that are made in turn. -/
def after (l : Ledger) (steps : List ClaimStep) : Ledger :=
  steps.foldl (fun l s => l.claimAll (s.offered l)) l

theorem after_append (l : Ledger) (steps more : List ClaimStep) :
    l.after (steps ++ more) = (l.after steps).after more :=
  List.foldl_append

theorem subset_after (l : Ledger) (steps : List ClaimStep) :
    l.claimed ⊆ (l.after steps).claimed := by
  induction steps generalizing l with
  | nil => exact List.Subset.refl _
  | cons s steps ih =>
    intro c hc
    exact ih (l.claimAll (s.offered l)) (mem_claimAll.2 (.inl hc))

/-- One of the steps made for the recipient offers the comment when its turn comes. -/
def Offers (l : Ledger) (steps : List ClaimStep) (r : Recipient) (c : Comment) : Prop :=
  ∃ (before : List ClaimStep) (s : ClaimStep) (rest : List ClaimStep),
    steps = before ++ s :: rest ∧ s.occurrence.recipient = r ∧ c ∈ s.offered (l.after before)

variable {l : Ledger} {steps more : List ClaimStep} {r : Recipient} {c : Comment}

theorem Offers.append_right (h : l.Offers steps r c) (more : List ClaimStep) :
    l.Offers (steps ++ more) r c := by
  obtain ⟨before, s, rest, rfl, recipient, offered⟩ := h
  exact ⟨before, s, rest ++ more, by simp, recipient, offered⟩

theorem Offers.append_left (h : (l.after steps).Offers more r c) :
    l.Offers (steps ++ more) r c := by
  obtain ⟨before, s, rest, rfl, recipient, offered⟩ := h
  exact ⟨steps ++ before, s, rest, by simp, recipient, by rwa [after_append]⟩

theorem Offers.single {s : ClaimStep} (recipient : s.occurrence.recipient = r)
    (offered : c ∈ s.offered l) : l.Offers [s] r c :=
  ⟨[], s, [], rfl, recipient, offered⟩

end Ledger

/-! ## The schedule of a tree -/

/-- The steps of a node around those of its children. A declaration first claims what is adjacent
to it, but the arguments of an object creation come before. -/
def Occurrence.arrange (o : Occurrence) (parts : List (List ClaimStep)) : List ClaimStep :=
  let arguments := o.node.creationArguments.length
  if o.node.construct.isFieldDeclaration then
    [ClaimStep.adjacent o, ClaimStep.attached o] ++ parts.flatten ++ [ClaimStep.own o]
  else if o.own?.isSome then
    (parts.take arguments).flatten ++ [ClaimStep.adjacent o] ++
      (parts.drop arguments).flatten ++ [ClaimStep.own o]
  else parts.flatten ++ [ClaimStep.own o]

namespace Node

/-- The steps in which the comments of a node and of all nodes below it are claimed. -/
def schedule (n : Node) (above : Lineage) : List ClaimStep :=
  Occurrence.arrange ⟨n, above⟩ (n.children.zipIdx.attach.map fun c =>
    c.1.1.schedule (⟨n, c.1.2⟩ :: above))
termination_by n
decreasing_by exact sizeOf_lt_of_mem_children (List.fst_mem_of_mem_zipIdx c.2)

theorem schedule_eq (n : Node) (above : Lineage) : n.schedule above =
    Occurrence.arrange ⟨n, above⟩
      (n.children.zipIdx.map fun c => c.1.schedule (⟨n, c.2⟩ :: above)) := by
  rw [schedule, List.map_subtype
    (g := fun c : Node × Nat => c.1.schedule (⟨n, c.2⟩ :: above)) fun _ _ => rfl,
    List.unattach_attach]

/-- The steps of a declaration, those of the arguments of an object creation left out. -/
def typeSchedule (n : Node) (above : Lineage) : List ClaimStep :=
  [ClaimStep.adjacent ⟨n, above⟩] ++ ((n.children.zipIdx.drop n.creationArguments.length).flatMap
    fun c => c.1.schedule (⟨n, c.2⟩ :: above)) ++ [ClaimStep.own ⟨n, above⟩]

variable {n : Node} {above : Lineage}

theorem schedule_of_own (own : (Occurrence.own? ⟨n, above⟩).isSome)
    (field : n.construct.isFieldDeclaration = false) : n.schedule above =
      (n.creationArguments.zipIdx.flatMap fun c => c.1.schedule (⟨n, c.2⟩ :: above)) ++
        n.typeSchedule above := by
  obtain ⟨rest, children⟩ := n.creationArguments_prefix
  rw [schedule_eq, typeSchedule, Occurrence.arrange]
  simp only [field, own, Bool.false_eq_true, if_false, if_true, ← List.map_take, ← List.map_drop,
    ← List.flatMap_def, List.append_assoc]
  rw [← children, List.zipIdx_append, List.take_left' List.length_zipIdx]

theorem schedule_of_isFieldDeclaration (field : n.construct.isFieldDeclaration = true) :
    n.schedule above = [ClaimStep.adjacent ⟨n, above⟩, ClaimStep.attached ⟨n, above⟩] ++
      (n.children.zipIdx.flatMap fun c => c.1.schedule (⟨n, c.2⟩ :: above)) ++
        [ClaimStep.own ⟨n, above⟩] := by
  rw [schedule_eq, Occurrence.arrange, if_pos field, List.flatMap_def]

theorem schedule_of_code (own : Occurrence.own? ⟨n, above⟩ = none)
    (field : n.construct.isFieldDeclaration = false) : n.schedule above =
      (n.children.zipIdx.flatMap fun c => c.1.schedule (⟨n, c.2⟩ :: above)) ++
        [ClaimStep.own ⟨n, above⟩] := by
  rw [schedule_eq, Occurrence.arrange]
  simp only [field, own, Option.isSome_none, Bool.false_eq_true, if_false, List.flatMap_def]

end Node

section Arrange

variable {o : Occurrence} {parts : List (List ClaimStep)} {s : ClaimStep}

theorem mem_take_drop_flatten {k : Nat} :
    s ∈ (parts.take k).flatten ∨ s ∈ (parts.drop k).flatten ↔ ∃ p ∈ parts, s ∈ p := by
  rw [← List.mem_append, ← List.flatten_append, List.take_append_drop, List.mem_flatten]

/-- Every step is one of the node or of its children, and what is adjacent is claimed for
declarations only. -/
theorem Occurrence.mem_arrange (h : s ∈ o.arrange parts) :
    (s.occurrence = o ∧ ∀ d, s = .adjacent d → d.own?.isSome) ∨ ∃ p ∈ parts, s ∈ p := by
  unfold arrange at h
  split at h
  · rename_i field
    have own : o.own?.isSome := by
      rw [own?]
      split <;> simp
    simp only [List.mem_append, List.mem_cons, List.not_mem_nil, or_false, List.mem_flatten] at h
    rcases h with ((rfl | rfl) | h) | rfl
    · exact .inl ⟨rfl, fun d hd => by cases hd; exact own⟩
    · exact .inl ⟨rfl, fun d hd => by cases hd⟩
    · exact .inr h
    · exact .inl ⟨rfl, fun d hd => by cases hd⟩
  · split at h
    · rename_i own
      simp only [List.mem_append, List.mem_singleton] at h
      rcases h with ((h | rfl) | h) | rfl
      · exact .inr (mem_take_drop_flatten.1 (.inl h))
      · exact .inl ⟨rfl, fun d hd => by cases hd; exact own⟩
      · exact .inr (mem_take_drop_flatten.1 (.inr h))
      · exact .inl ⟨rfl, fun d hd => by cases hd⟩
    · simp only [List.mem_append, List.mem_singleton, List.mem_flatten] at h
      rcases h with h | rfl
      · exact .inr h
      · exact .inl ⟨rfl, fun d hd => by cases hd⟩

theorem Occurrence.own_mem_arrange (o : Occurrence) (parts : List (List ClaimStep)) :
    .own o ∈ o.arrange parts := by
  unfold arrange
  split
  · exact List.mem_append_right _ (List.mem_singleton_self _)
  · split <;> exact List.mem_append_right _ (List.mem_singleton_self _)

theorem Occurrence.mem_arrange_of_mem {p : List ClaimStep} (hp : p ∈ parts) (hs : s ∈ p) :
    s ∈ o.arrange parts := by
  have flat : s ∈ parts.flatten := List.mem_flatten.2 ⟨p, hp, hs⟩
  have halves := (mem_take_drop_flatten (k := o.node.creationArguments.length)).2 ⟨p, hp, hs⟩
  unfold arrange
  split
  · simp [flat]
  · split
    · simp only [List.mem_append]
      tauto
    · simp [flat]

end Arrange

namespace Node

variable {n : Node} {above : Lineage} {s : ClaimStep}

theorem occurrence_of_mem_schedule (h : s ∈ n.schedule above) :
    s.occurrence ∈ n.occurrences above ∧ ∀ d, s = .adjacent d → d.own?.isSome := by
  induction n using Node.induction generalizing above with
  | step n ih =>
    rw [schedule_eq] at h
    rw [occurrences_eq, List.mem_cons, List.mem_flatMap]
    rcases Occurrence.mem_arrange h with ⟨self, own⟩ | ⟨p, hp, hs⟩
    · exact ⟨.inl self, own⟩
    · obtain ⟨c, hc, rfl⟩ := List.mem_map.1 hp
      obtain ⟨below, own⟩ := ih c.1 (List.fst_mem_of_mem_zipIdx hc) hs
      exact ⟨.inr ⟨c, hc, below⟩, own⟩

/-- Every node claims what is placed on it at some time. -/
theorem own_mem_schedule {o : Occurrence} (h : o ∈ n.occurrences above) :
    .own o ∈ n.schedule above := by
  induction n using Node.induction generalizing above with
  | step n ih =>
    rw [schedule_eq]
    rw [occurrences_eq, List.mem_cons, List.mem_flatMap] at h
    rcases h with rfl | ⟨c, hc, h⟩
    · exact Occurrence.own_mem_arrange _ _
    · exact Occurrence.mem_arrange_of_mem (List.mem_map.2 ⟨c, hc, rfl⟩)
        (ih c.1 (List.fst_mem_of_mem_zipIdx hc) h)

end Node

namespace Ledger

theorem offered_subset_after {l : Ledger} {before rest : List ClaimStep} {s : ClaimStep} :
    s.offered (l.after before) ⊆ (l.after (before ++ s :: rest)).claimed := by
  intro c hc
  rw [after_append]
  exact subset_after _ rest (mem_claimAll.2 (.inr hc))

theorem slots_subset_after {l : Ledger} {steps : List ClaimStep} {o : Occurrence}
    (h : .own o ∈ steps) : o.node.slots.all ⊆ (l.after steps).claimed := by
  obtain ⟨before, rest, rfl⟩ := List.append_of_mem h
  intro c hc
  exact offered_subset_after (o.node.ownComments_perm.mem_iff.2 hc)

/-- After the steps of a tree, in whichever order they are made, none of its comments is left. -/
theorem heldComments_subset_after (l : Ledger) {steps : List ClaimStep} {n : Node}
    {above : Lineage} (perm : steps.Perm (n.schedule above)) :
    n.heldComments ⊆ (l.after steps).claimed := by
  intro c hc
  obtain ⟨m, hm, hc⟩ := List.mem_flatMap.1 hc
  rw [← n.nodes_occurrences above] at hm
  obtain ⟨o, ho, rfl⟩ := List.mem_map.1 hm
  exact slots_subset_after (perm.mem_iff.2 (Node.own_mem_schedule ho)) hc

theorem claimAll_of_subset {l : Ledger} {cs : List Comment} (h : cs ⊆ l.claimed) :
    l.claimAll cs = l := by
  induction cs with
  | nil => rfl
  | cons c cs ih =>
    have known : l.claim c = l := dif_pos (h (List.mem_cons_self ..))
    show (l.claim c).claimAll cs = l
    rw [known]
    exact ih fun d hd => h (List.mem_cons_of_mem _ hd)

theorem fresh_of_subset {l : Ledger} {cs : List Comment} (h : cs ⊆ l.claimed) :
    l.fresh cs = [] := by
  rw [fresh, claimAll_of_subset h, size, List.drop_length]

end Ledger

end JavaCensus
