import JavaCensus.Proofs.Collecting
import JavaCensus.Proofs.Growth
import JavaCensus.Proofs.Bare
import Mathlib

/-!
# Well-sorted trees

Every construct asks each of its parts to serve in some capacity. A tree is well sorted if each
node can serve as the node above it asks. What the reader gives is well sorted, and it stays so when
comments are placed on it.
-/
namespace JavaCensus

/-- What a node is asked to be by the node that holds it. -/
inductive Capacity where
  | unit
  | package
  | «import»
  | module
  | directive
  | type
  | member
  | declarator
  | resource
  | code
  deriving DecidableEq, Repr

/-- Whether what serves in the capacity can be walked as code. -/
def Capacity.isWalked : Capacity → Bool
  | .type | .declarator | .resource | .code => true
  | .unit | .package | .import | .module | .directive | .member => false

namespace Construct

variable {α β : Type}

/-- Whether it is known what a construct is, beyond its family. -/
def isSpecified : Construct α → Bool
  | .bare _ | .typeDeclaration .unspecified .. => false
  | _ => true

/-- Whether a construct can be what it is asked to be, whatever its parts are. -/
def serves (x : Construct α) : Capacity → Bool
  | .unit => (x matches .compilationUnit ..)
  | .package => (x matches .packageDeclaration _)
  | .import => (x matches .importDeclaration ..)
  | .module => (x matches .moduleDeclaration ..)
  | .directive => (x matches .moduleDirective ..)
  | .type => x.codeRole == .declaredType && x.isSpecified
  | .member => x.memberRole != .foreign && x.isSpecified
  | .declarator => (x matches .variableDeclarator ..)
  | .resource => (x matches .resource ..)
  | .code => x.codeRole != .foreign && x.isSpecified

/-- The parts in the order of `children`, each with the capacity it is asked to serve in. -/
def stations : Construct α → List (Capacity × α)
  | .compilationUnit package imports types module =>
    package.toList.map (.package, ·) ++ imports.map (.import, ·) ++
      module.toList.map (.module, ·) ++ types.map (.type, ·)
  | .moduleDeclaration _ _ directives => directives.map (.directive, ·)
  | .typeDeclaration _ _ _ members => members.map (.member, ·)
  | .enumDeclaration _ _ constants members => (constants ++ members).map (.member, ·)
  | .fieldDeclaration _ declarators _ => declarators.map (.declarator, ·)
  | .localDeclaration _ declarators => declarators.map (.declarator, ·)
  | .enumConstant _ arguments body =>
    arguments.map (.code, ·) ++ (body.getD []).map (.member, ·)
  | .objectCreation _ arguments body =>
    arguments.map (.code, ·) ++ (body.getD []).map (.member, ·)
  | .tryStatement resources body catches last =>
    resources.map (.resource, ·) ++ ([body] ++ catches ++ last.toList).map (.code, ·)
  | x => x.children.map (.code, ·)

theorem map_snd_stations (x : Construct α) : x.stations.map (·.2) = x.children := by
  cases x <;> simp [stations, children, Function.comp_def]

theorem blank_list_eq (xs : List α) :
    Id.run (xs.mapM fun _ => pure ()) = List.replicate xs.length () := by
  induction xs with
  | nil => rfl
  | cons x xs ih =>
    simp only [List.mapM_cons, Id.run_bind, Id.run_pure, ih, List.length_cons, List.replicate_succ]

theorem blank_option_eq (o : Option α) :
    Id.run (o.mapM fun _ => pure ()) = o.map fun _ => () := by
  cases o <;> rfl

theorem blank_optionalList_eq (o : Option (List α)) :
    Id.run (o.mapM (List.mapM fun _ => pure ())) = o.map fun xs => List.replicate xs.length () := by
  cases o with
  | none => rfl
  | some xs => exact congrArg some (blank_list_eq xs)

/-- What the parts are asked to be depends on the shape only. -/
theorem map_fst_stations_shape (x : Construct α) :
    x.shape.stations.map (·.1) = x.stations.map (·.1) := by
  have optional (o : Option (List α)) :
      ((o.map fun xs => List.replicate xs.length ()).getD []).length = (o.getD []).length := by
    cases o <;> simp
  cases x <;> simp only [shape, traverse, Id.run_bind, Id.run_pure, blank_list_eq, blank_option_eq,
    blank_optionalList_eq, stations, children, List.map_append, List.map_map, Option.toList_map,
    List.map_replicate, Function.comp_def, List.map_const', optional, List.map_cons,
    List.map_nil]

theorem codeRole_shape (x : Construct α) : x.shape.codeRole = x.codeRole := by
  cases x with
  | bare family => cases family <;> rfl
  | objectCreation _ _ body => cases body <;> rfl
  | _ => rfl

theorem memberRole_shape (x : Construct α) : x.shape.memberRole = x.memberRole := by
  cases x with
  | callable sort => cases sort <;> rfl
  | enumConstant _ _ body => cases body <;> rfl
  | _ => rfl

theorem isSpecified_shape (x : Construct α) : x.shape.isSpecified = x.isSpecified := by
  cases x with
  | typeDeclaration sort => cases sort <;> rfl
  | _ => rfl

/-- What a construct can be depends on its shape only. -/
theorem serves_shape (x : Construct α) (c : Capacity) : x.shape.serves c = x.serves c := by
  cases c with
  | type | member | code =>
    simp only [serves, codeRole_shape, memberRole_shape, isSpecified_shape]
  | _ => cases x <;> rfl

theorem memberRole_of_codeRole {x : Construct α} (h : x.codeRole = .declaredType) :
    x.memberRole = .type := by
  cases x with
  | typeDeclaration | enumDeclaration => rfl
  | bare family => cases family <;> cases h
  | objectCreation _ _ body => cases body <;> cases h
  | _ => cases h

theorem serves_type_iff {x : Construct α} :
    x.serves .type ↔ x.codeRole = .declaredType ∧ x.isSpecified := by
  simp [serves]

theorem serves_code_iff {x : Construct α} :
    x.serves .code ↔ x.codeRole ≠ .foreign ∧ x.isSpecified := by
  simp [serves]

theorem serves_member_iff {x : Construct α} :
    x.serves .member ↔ x.memberRole ≠ .foreign ∧ x.isSpecified := by
  simp [serves]

/-- A type can stand among members. -/
theorem serves_member_of_type {x : Construct α} (h : x.serves .type) : x.serves .member := by
  obtain ⟨role, specified⟩ := serves_type_iff.1 h
  exact serves_member_iff.2 ⟨by simp [memberRole_of_codeRole role], specified⟩

/-- A type, a declarator and a resource can stand in code. -/
theorem serves_code_of_isWalked {x : Construct α} {c : Capacity} (walked : c.isWalked)
    (h : x.serves c) : x.serves .code := by
  cases c with
  | type =>
    obtain ⟨role, specified⟩ := serves_type_iff.1 h
    exact serves_code_iff.2 ⟨by simp [role], specified⟩
  | declarator | resource =>
    simp only [serves] at h
    split at h
    · rfl
    · cases h
  | code => exact h
  | _ => cases walked

end Construct

namespace Node

/-- The node can be what it is asked to be, and so can each node below it. -/
inductive Serves : Capacity → Node → Prop where
  | mk {c : Capacity} {n : Node} (own : n.construct.serves c)
      (parts : ∀ p ∈ n.construct.stations, Serves p.1 p.2) : Serves c n

namespace Serves

variable {c d : Capacity} {n m : Node}

theorem own (h : n.Serves c) : n.construct.serves c := by
  cases h
  assumption

theorem part (h : n.Serves c) {p : Capacity × Node} (hp : p ∈ n.construct.stations) :
    Serves p.1 p.2 := by
  cases h with
  | mk _ parts => exact parts p hp

/-- A node that serves in one capacity serves in every other that its construct can serve in. -/
theorem change (h : n.Serves c) (own : n.construct.serves d) : n.Serves d :=
  ⟨own, fun _ => h.part⟩

end Serves

/-- Each part of the one construct has its counterpart in the other. -/
theorem exists_station {R : Node → Node → Prop} {xs ys : List (Capacity × Node)}
    (capacities : xs.map (·.1) = ys.map (·.1))
    (parts : List.Forall₂ R (xs.map (·.2)) (ys.map (·.2))) {q : Capacity × Node} (hq : q ∈ ys) :
    ∃ p ∈ xs, p.1 = q.1 ∧ R p.2 q.2 := by
  induction ys generalizing xs with
  | nil => cases hq
  | cons y ys ih =>
    cases xs with
    | nil => cases capacities
    | cons x xs =>
      rw [List.map_cons, List.map_cons, List.cons.injEq] at capacities
      cases parts with
      | cons first rest =>
        rcases List.mem_cons.1 hq with rfl | hq
        · exact ⟨x, List.mem_cons_self .., capacities.1, first⟩
        · obtain ⟨p, hp, found⟩ := ih capacities.2 rest hq
          exact ⟨p, List.mem_cons_of_mem _ hp, found⟩

/-- Comments that are placed on a tree leave it well sorted. -/
theorem Serves.growsTo {c : Capacity} {n m : Node} (h : n.Serves c) (grows : n.GrowsTo m) :
    m.Serves c := by
  induction h generalizing m with
  | @mk c n own _ ih =>
    have capacities : n.construct.stations.map (·.1) = m.construct.stations.map (·.1) := by
      rw [← Construct.map_fst_stations_shape, ← grows.node.shape,
        Construct.map_fst_stations_shape]
    have parts : List.Forall₂ GrowsTo (n.construct.stations.map (·.2))
        (m.construct.stations.map (·.2)) := by
      rw [Construct.map_snd_stations, Construct.map_snd_stations]
      exact grows.children
    refine ⟨?_, fun p hp => ?_⟩
    · rwa [← Construct.serves_shape, grows.node.shape, Construct.serves_shape]
    · obtain ⟨q, hq, capacity, grows⟩ := exists_station capacities parts hp
      rw [← capacity]
      exact ih q hq grows

theorem serves_bare {c : Capacity} {span : Span} {x : Construct Node} (own : x.serves c)
    (parts : ∀ p ∈ x.stations, Serves p.1 p.2) : (bare span x).Serves c :=
  ⟨own, parts⟩

end Node

namespace Reading

variable {r : Reading}

/-- What a tree that is read in some role is to be. -/
def Role.capacity : Role → Capacity
  | .expression | .statement | .block | .catchClause | .entry => .code
  | .declarator => .declarator
  | .resource => .resource
  | .type => .type
  | .constant | .member => .member

theorem Reads.serves {role : Role} {t : ParseTree} {n : Node} (h : r.Reads role t n) :
    n.Serves role.capacity := by
  induction h with
  | localType _ _ ih => exact ih.change (Construct.serves_code_of_isWalked rfl ih.own)
  | memberType _ _ ih => exact ih.change (Construct.serves_member_of_type ih.own)
  | localBlock _ _ ih => exact ih
  | emptyStatement | breakStatement | continueStatement =>
    exact Node.serves_bare rfl (List.forall_mem_nil _)
  | typeDeclaration form _ _ _ ih =>
    refine Node.serves_bare (by cases form <;> rfl) ?_
    simp only [Construct.stations, List.forall_mem_map]
    exact ih
  | forStatement =>
    rename_i starts reads tests goesOn
    -- both roles in which the start of a loop is read ask for code
    have starts : ∀ i ∈ _, Node.Serves .code (Prod.snd i) := fun i hi => by
      have start := starts i hi
      split at start <;> exact start
    refine Node.serves_bare rfl ?_
    simp only [Construct.stations, Construct.children, List.map_append, List.forall_mem_append,
      List.forall_mem_map, forall_mem_toList_map, List.forall_mem_singleton]
    exact ⟨⟨⟨starts, tests⟩, goesOn⟩, reads⟩
  | _ =>
    refine Node.serves_bare rfl ?_
    simp only [Construct.stations, Construct.children, Option.getD_some, Option.getD_none,
      List.append_nil, Option.toList_some, List.forall_mem_append, List.forall_mem_cons,
      List.not_mem_nil, false_implies, implies_true, List.forall_mem_map, forall_mem_toList_map,
      and_true]
    repeat' apply And.intro
    all_goals assumption

theorem directive_serves {t : ParseTree} {n : Node} (h : r.directive t = .ok n) :
    n.Serves .directive := by
  have named {t : ParseTree} {keyword : String} (h : r.directiveNamed t keyword = .ok n) :
      n.Serves .directive := by
    unfold directiveNamed at h
    split at h
    · cases h
      exact Node.serves_bare rfl (List.forall_mem_nil _)
    · exact absurd h not_reject
  unfold directive at h
  split at h
  · exact named h
  · split at h <;> exact named h

theorem moduleDeclaration_serves {t : ParseTree} {n : Node} (h : r.moduleDeclaration t = .ok n) :
    n.Serves .module := by
  unfold moduleDeclaration at h
  obtain ⟨directives, hdirectives, h⟩ := bind_eq_ok.1 h
  obtain rfl := pure_eq_ok.1 h
  obtain ⟨pairs, -, rfl, reads⟩ := mapM_eq_ok hdirectives
  refine Node.serves_bare rfl ?_
  simp only [Construct.stations, List.forall_mem_map]
  exact fun p hp => directive_serves (reads p hp)

/-- The unit that a source is read as is well sorted. -/
theorem unitOf_serves {level : LanguageLevel} {preview : Bool} {parse : Parse} {unit : Node}
    (h : r.unitOf level preview parse = .ok unit) : unit.Serves .unit := by
  obtain ⟨parts, -, reads, rfl⟩ := unitOf_reads h
  have part {α : Type} {f : TopLevel → Option α} {a : α}
      (ha : a ∈ (parts.map (·.2)).filterMap f) : ∃ t top, r.ReadsTop t top ∧ f top = some a := by
    obtain ⟨top, htop, ha⟩ := List.mem_filterMap.1 ha
    obtain ⟨p, hp, rfl⟩ := List.mem_map.1 htop
    exact ⟨p.1, p.2, reads p hp, ha⟩
  refine Node.serves_bare rfl ?_
  simp only [Construct.stations, List.forall_mem_append, List.forall_mem_map, Option.mem_toList]
  refine ⟨⟨⟨fun c hc => ?_, fun c hc => ?_⟩, fun c hc => ?_⟩, fun c hc => ?_⟩
  · obtain ⟨t, top, reads, hc⟩ := part (List.mem_of_getLast? hc)
    cases reads <;> cases hc
    exact Node.serves_bare rfl (List.forall_mem_nil _)
  · obtain ⟨t, top, reads, hc⟩ := part hc
    cases reads <;> cases hc
    exact Node.serves_bare rfl (List.forall_mem_nil _)
  · obtain ⟨t, top, reads, hc⟩ := part (List.mem_of_getLast? hc)
    cases reads <;> cases hc
    rename_i reads
    exact moduleDeclaration_serves reads
  · obtain ⟨t, top, reads, hc⟩ := part hc
    cases reads <;> cases hc
    rename_i reads
    exact reads.serves

end Reading

/-- A unit that has been read is well sorted, comments and all. -/
theorem serves_readUnit {name : String} {level : LanguageLevel} {preview : Bool}
    {source : SourceText} {parse : Parse} {u : ReadUnit}
    (h : readUnit name level preview source parse = .ok u) : u.unit.Serves .unit := by
  obtain ⟨unit, hunit, rfl⟩ := readUnit_eq_ok.1 h
  exact (Reading.unitOf_serves hunit).growsTo (unit.growsTo_place _)

end JavaCensus
