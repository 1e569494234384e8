import JavaCensus.Proofs.Reader
import JavaCensus.Proofs.Walks

/-!
# The reader places no comments

The nodes that a source is read as hold no comments, so that all comments of a unit are those that
are placed on it afterwards.
-/
namespace JavaCensus

theorem Node.heldComments_bare {span : Span} {construct : Construct Node}
    (h : ∀ c ∈ construct.children, c.heldComments = []) :
    (bare span construct).heldComments = [] := by
  rw [heldComments_eq]
  exact List.flatMap_eq_nil_iff.2 h

/-- What holds of the nodes that are paired with trees holds of the nodes. -/
theorem forall_mem_toList_map {α β : Type} {f : α → β} {o : Option α} {p : β → Prop} :
    (∀ b ∈ (o.map f).toList, p b) ↔ ∀ a ∈ o, p (f a) := by
  cases o <;> simp

namespace Reading

variable {r : Reading}

theorem Reads.heldComments {role : Role} {t : ParseTree} {n : Node} (h : r.Reads role t n) :
    n.heldComments = [] := by
  induction h with
  | localType _ _ ih | localBlock _ _ ih | memberType _ _ ih => exact ih
  | emptyStatement | breakStatement | continueStatement =>
    exact Node.heldComments_bare (List.forall_mem_nil _)
  | _ =>
    refine Node.heldComments_bare ?_
    simp only [Construct.children, Option.getD_some, Option.getD_none, List.append_nil,
      Option.toList_some, List.forall_mem_append, List.forall_mem_cons, List.not_mem_nil,
      false_implies, implies_true, List.forall_mem_map, forall_mem_toList_map, and_true]
    repeat' apply And.intro
    all_goals assumption

theorem directive_heldComments {t : ParseTree} {n : Node} (h : r.directive t = .ok n) :
    n.heldComments = [] := by
  have named {t : ParseTree} {keyword : String} (h : r.directiveNamed t keyword = .ok n) :
      n.heldComments = [] := by
    unfold directiveNamed at h
    split at h
    · cases h
      exact Node.heldComments_bare (List.forall_mem_nil _)
    · exact absurd h not_reject
  unfold directive at h
  split at h
  · exact named h
  · split at h <;> exact named h

theorem moduleDeclaration_heldComments {t : ParseTree} {n : Node}
    (h : r.moduleDeclaration t = .ok n) : n.heldComments = [] := by
  unfold moduleDeclaration at h
  obtain ⟨directives, hdirectives, h⟩ := bind_eq_ok.1 h
  obtain rfl := pure_eq_ok.1 h
  obtain ⟨pairs, -, rfl, reads⟩ := mapM_eq_ok hdirectives
  refine Node.heldComments_bare fun c hc => ?_
  obtain ⟨p, hp, rfl⟩ := List.mem_map.1 hc
  exact directive_heldComments (reads p hp)

/-- The unit that a source is read as holds no comments. -/
theorem unitOf_heldComments {level : LanguageLevel} {preview : Bool} {parse : Parse} {unit : Node}
    (h : r.unitOf level preview parse = .ok unit) : unit.heldComments = [] := by
  have parts := unitOf_children h
  obtain ⟨_, _, _, rfl⟩ := unitOf_reads h
  refine Node.heldComments_bare fun c hc => ?_
  obtain ⟨t, -, top, reads, rfl⟩ := parts c hc
  cases reads with
  | package | «import» => exact Node.heldComments_bare (List.forall_mem_nil _)
  | module _ reads => exact moduleDeclaration_heldComments reads
  | type _ reads => exact reads.heldComments

end Reading

end JavaCensus
