import JavaCensus.Proofs.Capacities
import JavaCensus.Proofs.Growth
import JavaCensus.Proofs.Recast

/-!
# Trees without comments in their slots

Two trees that differ only in what their slots hold are the same once the slots are emptied.
-/
namespace JavaCensus

namespace Node

/-- The tree with nothing in its slots. -/
def stripped (n : Node) : Node :=
  ⟨n.span, .empty, n.construct.refill (n.children.attach.map fun c => c.1.stripped)⟩
termination_by n
decreasing_by exact sizeOf_lt_of_mem_children c.2

theorem stripped_eq (n : Node) : n.stripped = ⟨n.span, .empty, n.construct.map stripped⟩ := by
  rw [stripped, List.map_subtype (g := stripped) fun _ _ => rfl, List.unattach_attach]
  exact congrArg (mk n.span .empty) (Construct.refill_map n stripped n.construct)

theorem construct_stripped (n : Node) : n.stripped.construct = n.construct.map stripped := by
  rw [stripped_eq]

theorem recasts_stripped : Recasts stripped :=
  construct_stripped

/-- Trees that differ in slots only are the same without what the slots hold. -/
theorem GrowsTo.stripped_same {n m : Node} (h : n.GrowsTo m) : m.stripped = n.stripped := by
  induction n using Node.induction generalizing m with
  | step n ih =>
    have below : m.children.map stripped = n.children.map stripped := by
      have h := h.children
      revert h ih
      generalize n.children = ns, m.children = ms
      intro ih h
      induction h with
      | nil => rfl
      | cons first _ rest =>
        rw [List.map_cons, List.map_cons, ih _ (List.mem_cons_self ..) first,
          rest fun c hc => ih c (List.mem_cons_of_mem _ hc)]
    rw [stripped_eq, stripped_eq n, h.node.span, Construct.map_eq_map n h.node.shape below]

end Node

end JavaCensus
