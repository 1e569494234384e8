import JavaCensus.Proofs.Shape
import JavaCensus.Collect.Unit

/-!
# Trees that are recast

A tree is recast if every node keeps its construct, with its parts recast in turn, whatever becomes
of spans and comments. What a node is told to be, which of its parts are asked for what, and what
happens when its code is walked follow the tree.
-/
namespace JavaCensus

namespace Construct

variable {α β : Type}

/-- The construct with every part replaced. -/
def map (f : α → β) (x : Construct α) : Construct β :=
  Id.run (x.traverse fun a => pure (f a))

theorem map_list (f : α → β) (xs : List α) : Id.run (xs.mapM fun a => pure (f a)) = xs.map f := by
  rw [List.mapM_pure]
  rfl

@[simp] theorem map_option (f : α → β) (o : Option α) :
    Id.run (o.mapM fun a => pure (f a)) = o.map f := by
  cases o <;> rfl

theorem map_optionalList (f : α → β) (o : Option (List α)) :
    Id.run (o.mapM (List.mapM fun a => pure (f a))) = o.map (List.map f) := by
  cases o with
  | none => rfl
  | some xs => exact congrArg some (map_list f xs)

theorem children_map (f : α → β) (x : Construct α) : (x.map f).children = x.children.map f := by
  rw [← map_list, ← children_traverse]
  rfl

/-! ## Filling a shape -/

theorem run_bind {σ γ : Type} (x : StateM σ α) (k : α → StateM σ γ) (s : σ) :
    (x >>= k).run s = (k (x.run s).1).run (x.run s).2 :=
  rfl

theorem run_pure {σ : Type} (a : α) (s : σ) : (pure a : StateM σ α).run s = (a, s) :=
  rfl

theorem fill_one (b c : β) (rest : List β) : (nextOr b).run (c :: rest) = (c, rest) :=
  rfl

theorem fill_list (f : α → β) (b : β) (xs : List α) (rest : List β) :
    ((xs.map fun _ => ()).mapM fun _ => nextOr b).run (xs.map f ++ rest) = (xs.map f, rest) := by
  induction xs with
  | nil => rfl
  | cons x xs ih =>
    simp only [List.map_cons, List.mapM_cons, List.cons_append, run_bind, run_pure, fill_one, ih]

theorem fill_option (f : α → β) (b : β) (o : Option α) (rest : List β) :
    ((o.map fun _ => ()).mapM fun _ => nextOr b).run (o.toList.map f ++ rest) =
      (o.map f, rest) := by
  cases o <;> rfl

theorem fill_optionalList (f : α → β) (b : β) (o : Option (List α)) (rest : List β) :
    ((o.map (List.map fun _ => ())).mapM (List.mapM fun _ => nextOr b)).run
      ((o.getD []).map f ++ rest) = (o.map (List.map f), rest) := by
  cases o with
  | none => rfl
  | some xs => exact congrArg (fun p => (some p.1, p.2)) (fill_list f b xs rest)

/-- A construct can be put together from its shape and its parts. -/
theorem run_traverse_shape (f : α → β) (b : β) (x : Construct α) (rest : List β) :
    (x.shape.traverse fun _ => nextOr b).run (x.children.map f ++ rest) = (x.map f, rest) := by
  cases x <;> simp only [shape, traverse, map, Id.run_bind, Id.run_pure, map_list, map_option,
    map_optionalList, children, List.map_append, List.map_cons, List.map_nil, List.append_assoc,
    List.cons_append, List.nil_append, run_bind, run_pure, fill_one, fill_list, fill_option,
    fill_optionalList]

/-- Constructs of one shape whose parts are mapped alike are mapped alike. -/
theorem map_eq_map {γ : Type} {f : α → γ} {g : β → γ} (c : γ) {x : Construct α} {y : Construct β}
    (shape : x.shape = y.shape)
    (children : x.children.map f = y.children.map g) : x.map f = y.map g := by
  have hx := run_traverse_shape f c x []
  have hy := run_traverse_shape g c y []
  rw [shape, children, hy] at hx
  exact (congrArg Prod.fst hx).symm

theorem map_same (x : Construct α) : x.map (fun a => a) = x := by
  cases x <;> simp only [map, traverse, Id.run_bind, Id.run_pure, map_list (fun a : α => a),
    map_option (fun a : α => a), map_optionalList (fun a : α => a), List.map_id_fun', id,
    Option.map_id_fun', Option.map_id_fun]

/-- Parts that are put in the place of the present ones. -/
theorem refill_map (b : α) (f : α → α) (x : Construct α) :
    x.refill (x.children.map f) = x.map f := by
  rw [← map_same (x.refill _)]
  refine map_eq_map b (shape_refill x _) ?_
  rw [children_refill (List.length_map ..), List.map_id']

theorem label_map (f : α → β) (x : Construct α) : (x.map f).label = x.label := by
  cases x with
  | bare family => cases family <;> rfl
  | typeDeclaration sort _ _ _ => cases sort <;> rfl
  | callable sort _ _ _ _ => cases sort <;> rfl
  | _ => rfl

theorem codeRole_map (f : α → β) (x : Construct α) : (x.map f).codeRole = x.codeRole := by
  cases x with
  | bare family => cases family <;> rfl
  | objectCreation _ _ body => cases body <;> rfl
  | _ => rfl

theorem name?_map (f : α → β) (x : Construct α) : (x.map f).name? = x.name? := by
  cases x <;> rfl

theorem initializer?_map (f : α → β) (x : Construct α) :
    (x.map f).initializer? = x.initializer?.map (Option.map f) := by
  cases x with
  | variableDeclarator _ initializer => cases initializer <;> rfl
  | resource _ initializer => cases initializer <;> rfl
  | _ => rfl

end Construct

namespace Node

/-- Every node keeps its construct, with the parts recast. -/
def Recasts (s : Node → Node) : Prop :=
  ∀ n, (s n).construct = n.construct.map s

namespace Recasts

variable {s : Node → Node} (h : Recasts s) (n : Node)

include h

theorem children : (s n).children = n.children.map s := by
  rw [Node.children, h n, Construct.children_map, Node.children]

/-! ## What a node is told to be -/

theorem label : (s n).label = n.label := by
  rw [Node.label, h n, Construct.label_map, Node.label]

theorem codeRole : (s n).construct.codeRole = n.construct.codeRole := by
  rw [h n, Construct.codeRole_map]

theorem requiredName : (s n).requiredName = n.requiredName := by
  rw [Node.requiredName, h n, Construct.name?_map, Node.requiredName]

theorem isInterface : (s n).isInterface = n.isInterface := by
  rw [Node.isInterface, h n, Node.isInterface]
  cases n.construct with
  | typeDeclaration sort _ _ _ => cases sort <;> rfl
  | _ => rfl

theorem isAnnotation : Node.isAnnotation (s n) = n.isAnnotation := by
  rw [ Node.isAnnotation, h n, Node.isAnnotation]
  cases n.construct with
  | typeDeclaration sort _ _ _ => cases sort <;> rfl
  | _ => rfl

theorem typeName : (s n).typeName = n.typeName := by
  rw [Node.typeName, h.requiredName, h n, Node.typeName]
  cases n.construct <;> rfl

theorem typeKind : (s n).typeKind = n.typeKind := by
  rw [Node.typeKind, h.label, h n, Node.typeKind]
  cases n.construct with
  | typeDeclaration sort _ _ _ => cases sort <;> rfl
  | enumConstant _ _ body => cases body <;> rfl
  | objectCreation _ _ body => cases body <;> rfl
  | _ => rfl

theorem methodName : (s n).methodName = n.methodName := by
  rw [Node.methodName, h.label, h n, Node.methodName]
  cases n.construct with
  | initializerBlock _ isStatic => cases isStatic <;> rfl
  | callable sort _ _ _ _ => cases sort <;> rfl
  | _ => rfl

theorem methodKind (enclosing : Node) :
    (s n).methodKind (s enclosing) = n.methodKind enclosing := by
  rw [Node.methodKind, h.label, h n, h.isInterface, Node.methodKind]
  cases n.construct with
  | initializerBlock _ isStatic => cases isStatic <;> rfl
  | callable sort _ _ body _ => cases sort <;> cases body <;> rfl
  | _ => rfl

theorem fieldKind (enclosing : Node) : (s n).fieldKind (s enclosing) = n.fieldKind enclosing := by
  rw [Node.fieldKind, h.label, h n, h.isInterface, h.isAnnotation, Node.fieldKind]
  cases n.construct with
  | enumConstant _ _ body => cases body <;> rfl
  | _ => rfl

theorem directiveKind : (s n).directiveKind = n.directiveKind := by
  rw [Node.directiveKind, h n, Node.directiveKind]
  cases n.construct <;> rfl

theorem countInitialized (ns : List Node) :
    Node.countInitialized (ns.map s) = Node.countInitialized ns := by
  induction ns with
  | nil => rfl
  | cons n ns ih =>
    rw [List.map_cons, Node.countInitialized, h n, Construct.initializer?_map, ih,
      Node.countInitialized]
    cases n.construct.initializer? with
    | none => rfl
    | some initializer => cases initializer <;> rfl

theorem statementCount : (s n).statementCount = n.statementCount := by
  rw [Node.statementCount, h.label, h n, Node.statementCount]
  cases n.construct with
  | bare family => cases family <;> rfl
  | constructorCall _ _ isImplicit => cases isImplicit <;> rfl
  | tryStatement resources _ _ _ =>
    show (Node.countInitialized (Id.run (resources.mapM fun c => pure (s c)))).map (1 + ·) = _
    rw [Construct.map_list, h.countInitialized]
  | localDeclaration _ declarators =>
    show Node.countInitialized (Id.run (declarators.mapM fun c => pure (s c))) = _
    rw [Construct.map_list, h.countInitialized]
  | _ => rfl

/-! ## Parts that are asked for -/

theorem code? : (s n).code? = n.code?.map s := by
  rw [Node.code?, h n, Node.code?]
  cases n.construct with
  | callable _ _ _ body _ => cases body <;> rfl
  | annotationMember _ _ default _ => cases default <;> rfl
  | variableDeclarator _ initializer => cases initializer <;> rfl
  | resource _ initializer => cases initializer <;> rfl
  | _ => rfl

theorem constantArguments : (s n).constantArguments = n.constantArguments.map s := by
  rw [Node.constantArguments, h n, Node.constantArguments]
  cases n.construct with
  | enumConstant _ arguments _ => exact Construct.map_list s arguments
  | _ => rfl

theorem fieldVariables : (s n).fieldVariables = n.fieldVariables.map s := by
  rw [Node.fieldVariables, h n, Node.fieldVariables]
  cases n.construct with
  | fieldDeclaration _ declarators _ => exact Construct.map_list s declarators
  | _ => rfl

theorem creationArguments : (s n).creationArguments = n.creationArguments.map s := by
  rw [Node.creationArguments, h n, Node.creationArguments]
  cases n.construct with
  | objectCreation _ arguments _ => exact Construct.map_list s arguments
  | _ => rfl

theorem typeMembers : (s n).typeMembers = n.typeMembers.map s := by
  rw [Node.typeMembers, h n, Node.typeMembers]
  cases n.construct with
  | typeDeclaration _ _ _ members => exact Construct.map_list s members
  | enumDeclaration _ _ constants members =>
    show Id.run (constants.mapM fun c => pure (s c)) ++
      Id.run (members.mapM fun c => pure (s c)) = _
    rw [Construct.map_list, Construct.map_list, ← List.map_append]
  | enumConstant _ _ body =>
    cases body with
    | none => rfl
    | some members => exact Construct.map_list s members
  | objectCreation _ _ body =>
    cases body with
    | none => rfl
    | some members => exact Construct.map_list s members
  | _ => rfl

theorem moduleParts : (s n).moduleParts =
    n.moduleParts.map fun parts => (parts.1, parts.2.1, parts.2.2.map s) := by
  rw [Node.moduleParts, h n, Node.moduleParts]
  cases n.construct with
  | moduleDeclaration name isOpen directives =>
    exact congrArg (fun ds => Except.ok (name, isOpen, ds)) (Construct.map_list s directives)
  | _ => rfl

theorem unitParts : (s n).unitParts = n.unitParts.map fun parts =>
    ⟨parts.package.map s, parts.imports.map s, parts.types.map s, parts.module.map s⟩ := by
  rw [Node.unitParts, h n, Node.unitParts]
  cases n.construct with
  | compilationUnit package imports types module =>
    simp only [Construct.map, Construct.traverse, Id.run_bind, Id.run_pure, Construct.map_list,
      Construct.map_option]
    rfl
  | _ => rfl

theorem packageName (package : Option Node) :
    JavaCensus.packageName (package.map s) = JavaCensus.packageName package := by
  cases package with
  | none => rfl
  | some p => exact h.requiredName p

end Recasts

end Node

/-! ## Code -/

def Visit.map (s : Node → Node) : Visit → Visit
  | .count k => .count k
  | .claim n => .claim (s n)
  | .type n p => .type (s n) (s p)
  | .fail e => .fail e

namespace Node.Recasts

variable {s : Node → Node} (h : Recasts s) (n : Node)

include h

theorem ownCount : (s n).ownCount = n.ownCount.map (Visit.map s) := by
  rw [Node.ownCount, h.statementCount, Node.ownCount]
  cases n.statementCount <;> rfl

theorem visits (parent : Node) :
    JavaCensus.visits (s n) (s parent) = (JavaCensus.visits n parent).map (Visit.map s) := by
  induction n using Node.induction generalizing parent with
  | step n ih =>
    have below : ∀ cs : List Node, (∀ c ∈ cs, c ∈ n.children) →
        (cs.map s).flatMap (JavaCensus.visits · (s n)) =
          (cs.flatMap (JavaCensus.visits · n)).map (Visit.map s) := by
      intro cs hcs
      rw [List.flatMap_map, List.map_flatMap]
      exact List.flatMap_congr fun c hc => ih c (hcs c hc) n
    rw [visits_eq, visits_eq n, h.codeRole, h.creationArguments,
      below _ fun _ => Node.mem_children_of_mem_creationArguments, h.children,
      below _ fun _ hc => hc, h.ownCount, h.label]
    cases n.construct.codeRole <;> simp [Visit.map]

end Node.Recasts

end JavaCensus
