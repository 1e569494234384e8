import JavaCensus.Proofs.Equations
import JavaCensus.Proofs.Progress

/-!
# Entries of a switch

The body of a switch is flattened: each label of a group or a rule becomes an entry. No label and no
statement is lost or doubled, and it makes no difference to the statements that are counted whether
labels stand in one group or in several.
-/
namespace JavaCensus

/-! ## Steps over lists -/

section Steps

variable {ε α β : Type} {f : α → Except ε β} {xs ys : List α}

theorem mapM_singleton_eq_ok {x : α} {zs : List β} :
    [x].mapM f = .ok zs ↔ ∃ y, f x = .ok y ∧ [y] = zs := by
  rw [List.mapM_cons, List.mapM_nil]
  simp only [bind_eq_ok, pure_bind, pure_eq_ok]

theorem mapM_append_eq_ok {zs : List β} :
    (xs ++ ys).mapM f = .ok zs ↔
      ∃ as bs, xs.mapM f = .ok as ∧ ys.mapM f = .ok bs ∧ as ++ bs = zs := by
  rw [List.mapM_append]
  simp only [bind_eq_ok, pure_eq_ok, exists_and_left]

end Steps

namespace ParseTree

/-- The labels of a group or a rule of a switch. -/
def switchLabels (t : ParseTree) : List ParseTree :=
  t.namedChildren.filter (·.type == "switch_label")

def isSwitchPart (t : ParseTree) : Bool :=
  t.type == "switch_block_statement_group" || t.type == "switch_rule"

/-- The groups and rules in the body of a switch. -/
def switchParts (t : ParseTree) : List ParseTree :=
  t.namedChildren.filter (·.isSwitchPart)

/-- A body as grammars give them: groups have labels, and rules have one label each. -/
structure Labelled (body : ParseTree) : Prop where
  groups : ∀ c ∈ body.namedChildren, c.type = "switch_block_statement_group" → c.switchLabels ≠ []
  rules : ∀ c ∈ body.namedChildren, c.type = "switch_rule" → c.switchLabels.length = 1

/-- A group is split into groups that have one of its labels each, in order, the last of which has
its statements. -/
structure Splits (group : ParseTree) (parts : List ParseTree) : Prop where
  type : group.type = "switch_block_statement_group"
  groups : ∀ p ∈ parts, p.type = "switch_block_statement_group"
  labels : parts.map switchLabels = group.switchLabels.map ([·])
  early : ∀ p ∈ parts.dropLast, p.entryTrees = []
  last : ∀ p ∈ parts.getLast?, p.entryTrees = group.entryTrees

end ParseTree

namespace Node

/-- The statements of an entry of a switch. -/
def entryStatements (n : Node) : List Node :=
  match n.construct with
  | .switchEntry _ statements _ => statements
  | _ => []

/-! ## Counts -/

/-- What the statements of a node and of all nodes below it make on their own, in the order of the
walk. -/
def statementCounts (n : Node) : Except Error (List Nat) :=
  (n.walk.filter fun k => k.construct.codeRole = .counted).mapM statementCount

/-- The sum over the statements of several nodes, nested ones included. -/
def statementSum (ns : List Node) : Except Error Nat :=
  (fun counts => (counts.map List.sum).sum) <$> ns.mapM statementCounts

theorem statementCount_congr {n m : Node} (same : n.construct = m.construct) :
    n.statementCount = m.statementCount := by
  rw [statementCount, statementCount, label, label, same]

/-- Where a node stands makes no difference to its statements. -/
theorem statementCounts_congr {n m : Node} (same : n.construct = m.construct) :
    n.statementCounts = m.statementCounts := by
  unfold statementCounts
  rw [walk_eq, walk_eq, children, children, List.filter_cons, List.filter_cons, same]
  split
  · rw [List.mapM_cons, List.mapM_cons, statementCount_congr same]
  · rfl

theorem statementSum_congr {ns ms : List Node}
    (same : ns.map (·.construct) = ms.map (·.construct)) : statementSum ns = statementSum ms := by
  have counts : ns.mapM statementCounts = ms.mapM statementCounts := by
    induction ns generalizing ms with
    | nil =>
      obtain rfl := List.map_eq_nil_iff.1 same.symm
      rfl
    | cons n ns ih =>
      cases ms with
      | nil => cases same
      | cons m ms =>
        simp only [List.map_cons, List.cons.injEq] at same
        rw [List.mapM_cons, List.mapM_cons, statementCounts_congr same.1, ih same.2]
  rw [statementSum, statementSum, counts]

/-- A statement is code, whatever it is asked to be. -/
theorem Serves.code_of_counted {n : Node} {c : Capacity} (h : n.Serves c)
    (role : n.construct.codeRole = .counted) : n.Serves .code := by
  have own := h.own
  refine h.change (Construct.serves_code_iff.2 ⟨by simp [role], ?_⟩)
  cases hn : n.construct with
  | bare family => cases c <;> simp [hn, Construct.serves, Construct.isSpecified] at own
  | typeDeclaration => simp [hn, Construct.codeRole] at role
  | _ => rfl

theorem Serves.of_mem_walk {n k : Node} {c : Capacity} (h : n.Serves c) (hk : k ∈ n.walk) :
    ∃ d, k.Serves d := by
  induction n using Node.induction generalizing c with
  | step n ih =>
    rw [walk_eq, List.mem_cons, List.mem_flatMap] at hk
    rcases hk with rfl | ⟨m, hm, hk⟩
    · exact ⟨c, h⟩
    · have part := hm
      rw [children, ← Construct.map_snd_stations] at part
      obtain ⟨p, hp, rfl⟩ := List.mem_map.1 part
      exact ih p.2 hm (h.part hp) hk

/-- The statements of well-sorted nodes can be counted. -/
theorem exists_statementSum {ns : List Node} (h : ∀ n ∈ ns, ∃ c, n.Serves c) :
    ∃ sum, statementSum ns = .ok sum := by
  have counts : ∀ n ∈ ns, ∃ counts, n.statementCounts = .ok counts := by
    intro n hn
    obtain ⟨c, serves⟩ := h n hn
    refine exists_mapM_eq_ok fun k hk => ?_
    obtain ⟨walked, role⟩ := List.mem_filter.1 hk
    have role := of_decide_eq_true role
    obtain ⟨d, serves⟩ := serves.of_mem_walk walked
    exact (serves.code_of_counted role).exists_statementCount role
  obtain ⟨lists, hlists⟩ := exists_mapM_eq_ok counts
  refine ⟨(lists.map List.sum).sum, ?_⟩
  rw [statementSum, hlists]
  rfl

end Node

namespace Reading

open ParseTree

variable {r : Reading} {t body : ParseTree}

/-! ## Labels -/

/-- An entry of a label: what the label selects, with some statements and some span. -/
def Enters (r : Reading) (label : ParseTree) (entry : Node) : Prop :=
  ∃ labels statements span, (label.parts.map (·.tree)).mapM r.expression = .ok labels ∧
    entry = .bare span (.switchEntry labels statements (label.children.any (·.type == "default")))

theorem switchEntry_eq_ok {label : ParseTree} {span : Span} {statements : List Node} {e : Node} :
    r.switchEntry label span statements = .ok e ↔
      ∃ labels, (label.parts.map (·.tree)).mapM r.expression = .ok labels ∧
        .bare span (.switchEntry labels statements (label.children.any (·.type == "default"))) =
          e := by
  rw [switchEntry_eq, bind_eq_ok]
  simp only [pure_eq_ok]

theorem enters_of_switchEntry {label : ParseTree} {span : Span} {statements : List Node} {e : Node}
    (h : r.switchEntry label span statements = .ok e) :
    r.Enters label e ∧ e.entryStatements = statements := by
  obtain ⟨labels, hlabels, rfl⟩ := switchEntry_eq_ok.1 h
  exact ⟨⟨labels, statements, span, hlabels, rfl⟩, rfl⟩

/-- The span of an entry makes no difference to the rest of it. -/
theorem switchEntry_move {label : ParseTree} {span : Span} {statements : List Node} {e : Node}
    (h : r.switchEntry label span statements = .ok e) (other : Span) :
    ∃ e', r.switchEntry label other statements = .ok e' ∧ e'.construct = e.construct := by
  obtain ⟨labels, hlabels, rfl⟩ := switchEntry_eq_ok.1 h
  exact ⟨_, switchEntry_eq_ok.2 ⟨labels, hlabels, rfl⟩, rfl⟩

/-! ## Groups and rules -/

/-- What a group or a rule is to become: an entry for each label, the last of which holds all
statements. -/
structure Flattens (r : Reading) (t : ParseTree) (entries : List Node) : Prop where
  labels : List.Forall₂ r.Enters t.switchLabels entries
  statements : t.entryTrees.mapM r.statement = .ok (entries.flatMap Node.entryStatements)
  early : ∀ e ∈ entries.dropLast, e.entryStatements = []

theorem groupOf_flattens {statements : List Node} {labels : List ParseTree} {es : List Node}
    (some : labels ≠ []) (h : r.groupOf t statements labels = .ok es) :
    List.Forall₂ r.Enters labels es ∧ es.flatMap Node.entryStatements = statements ∧
      ∀ e ∈ es.dropLast, e.entryStatements = [] := by
  induction labels generalizing es with
  | nil => exact absurd rfl some
  | cons label rest ih =>
    cases rest with
    | nil =>
      obtain ⟨e, he, h⟩ := bind_eq_ok.1 h
      obtain rfl := pure_eq_ok.1 h
      obtain ⟨enters, rfl⟩ := enters_of_switchEntry he
      exact ⟨.cons enters .nil, List.flatMap_singleton .., List.forall_mem_nil _⟩
    | cons other rest =>
      obtain ⟨e, he, h⟩ := bind_eq_ok.1 h
      obtain ⟨ms, hms, h⟩ := bind_eq_ok.1 h
      obtain rfl := pure_eq_ok.1 h
      obtain ⟨enters, none⟩ := enters_of_switchEntry he
      obtain ⟨labels, rfl, early⟩ := ih (List.cons_ne_nil _ _) hms
      refine ⟨.cons enters labels, by rw [List.flatMap_cons, none, List.nil_append], ?_⟩
      cases ms with
      | nil => cases labels
      | cons m ms => exact List.forall_mem_cons.2 ⟨none, early⟩

theorem entriesOf_flattens {es : List Node} (labelled : body.Labelled) (ht : t ∈ body.switchParts)
    (h : r.entriesOf t = .ok es) : r.Flattens t es := by
  obtain ⟨child, part⟩ := List.mem_filter.1 ht
  unfold entriesOf at h
  split at h
  · rename_i type
    obtain ⟨statements, hstatements, h⟩ := bind_eq_ok.1 h
    obtain ⟨labels, rfl, early⟩ := groupOf_flattens (labelled.groups t child type) h
    exact ⟨labels, hstatements, early⟩
  · rename_i type
    obtain ⟨label, hlabel, h⟩ := bind_eq_ok.1 h
    obtain ⟨statements, hstatements, h⟩ := bind_eq_ok.1 h
    obtain ⟨e, he, h⟩ := bind_eq_ok.1 h
    obtain rfl := pure_eq_ok.1 h
    obtain ⟨enters, rfl⟩ := enters_of_switchEntry he
    have only : t.switchLabels = [label] := by
      obtain ⟨l, hl⟩ := List.length_eq_one_iff.1 (labelled.rules t child type)
      have first := found_eq_ok.1 hlabel
      rw [← List.head?_filter] at first
      rw [switchLabels] at hl ⊢
      rw [hl] at first ⊢
      cases first
      rfl
    refine ⟨?_, ?_, List.forall_mem_nil _⟩
    · rw [only]
      exact .cons enters .nil
    · rw [hstatements, List.flatMap_singleton]
  · rename_i noGroup noRule
    simp only [isSwitchPart, Bool.or_eq_true, beq_iff_eq] at part
    rcases part with type | type
    · exact absurd type noGroup
    · exact absurd type noRule

/-! ## Bodies -/

/-- The entries of a switch are those of its groups and rules, one after the other. -/
theorem switchEntries_eq_ok {es : List Node} :
    r.switchEntries body = .ok es ↔
      ∃ lists, body.switchParts.mapM r.entriesOf = .ok lists ∧ lists.flatten = es := by
  have others : ∀ c ∈ body.namedChildren, c.isSwitchPart = false →
      ∃ ns, r.entriesOf c = .ok ns ∧ id ns = [] := by
    intro c hc other
    simp only [isSwitchPart, Bool.or_eq_false_iff, beq_eq_false_iff_ne] at other
    refine ⟨[], ?_, rfl⟩
    unfold entriesOf
    split
    · exact absurd ‹_› other.1
    · exact absurd ‹_› other.2
    · rfl
  rw [switchEntries_eq, ← mapM_filter_flatMap others, map_eq_ok]
  simp only [List.flatMap_id, switchParts]

theorem flattens_flatten {parts : List ParseTree} {lists : List (List Node)}
    (h : List.Forall₂ r.Flattens parts lists) :
    lists.flatten.length = (parts.map (·.switchLabels.length)).sum ∧
      (parts.flatMap entryTrees).mapM r.statement =
        .ok (lists.flatten.flatMap Node.entryStatements) := by
  induction h with
  | nil => exact ⟨rfl, rfl⟩
  | cons first _ ih =>
    obtain ⟨count, statements⟩ := ih
    constructor
    · rw [List.flatten_cons, List.length_append, List.map_cons, List.sum_cons, count,
        first.labels.length_eq]
    · rw [List.flatMap_cons, List.mapM_append, first.statements, statements, List.flatten_cons,
        List.flatMap_append]
      rfl

/-! ## Splitting a group -/

/-- A group with a single label. -/
theorem entriesOf_single {label : ParseTree} {span : Span} {statements : List Node} {e : Node}
    (type : t.type = "switch_block_statement_group") (labels : t.switchLabels = [label])
    (trees : t.entryTrees.mapM r.statement = .ok statements)
    (h : r.switchEntry label span statements = .ok e) :
    ∃ e', r.entriesOf t = .ok [e'] ∧ e'.construct = e.construct := by
  obtain ⟨e', he', same⟩ :=
    switchEntry_move h ⟨(r.source.span label).start, (r.source.span t).stop⟩
  refine ⟨e', ?_, same⟩
  rw [entriesOf, type]
  rw [switchLabels] at labels
  simp only [trees, labels, groupOf]
  show (r.switchEntry label _ statements >>= fun e => pure [e]) = _
  rw [he']
  rfl

/-- Labels that stand in groups of their own become the entries that they become in one group. -/
theorem mapM_entriesOf_of_groupOf {labels parts : List ParseTree} {trees : List ParseTree}
    {statements es : List Node}
    (groups : ∀ p ∈ parts, p.type = "switch_block_statement_group")
    (single : parts.map switchLabels = labels.map ([·]))
    (early : ∀ p ∈ parts.dropLast, p.entryTrees = [])
    (last : ∀ p ∈ parts.getLast?, p.entryTrees = trees)
    (reads : trees.mapM r.statement = .ok statements)
    (h : r.groupOf t statements labels = .ok es) :
    ∃ lists, parts.mapM r.entriesOf = .ok lists ∧
      lists.flatten.map (·.construct) = es.map (·.construct) := by
  induction labels generalizing parts es with
  | nil =>
    obtain rfl := List.map_eq_nil_iff.1 single
    obtain rfl := pure_eq_ok.1 h
    exact ⟨[], rfl, rfl⟩
  | cons label rest ih =>
    cases parts with
    | nil => cases single
    | cons p parts =>
      simp only [List.map_cons, List.cons.injEq] at single
      have type := groups p (List.mem_cons_self ..)
      cases rest with
      | nil =>
        obtain rfl := List.map_eq_nil_iff.1 single.2
        obtain ⟨e, he, h⟩ := bind_eq_ok.1 h
        obtain rfl := pure_eq_ok.1 h
        have own : p.entryTrees = trees := last p rfl
        obtain ⟨e', he', same⟩ := entriesOf_single type single.1 (own ▸ reads) he
        refine ⟨[[e']], ?_, congrArg ([·]) same⟩
        rw [List.mapM_cons, he']
        rfl
      | cons other rest =>
        cases parts with
        | nil => cases single.2
        | cons q parts =>
          obtain ⟨e, he, h⟩ := bind_eq_ok.1 h
          obtain ⟨ms, hms, h⟩ := bind_eq_ok.1 h
          obtain rfl := pure_eq_ok.1 h
          have none : p.entryTrees = [] := early p (List.mem_cons_self ..)
          obtain ⟨e', he', same⟩ := entriesOf_single type single.1 (none ▸ rfl) he
          obtain ⟨lists, hlists, rests⟩ := ih (fun q hq => groups q (List.mem_cons_of_mem _ hq))
            single.2 (fun q hq => early q (List.mem_cons_of_mem _ hq)) last hms
          refine ⟨[e'] :: lists, ?_, ?_⟩
          · rw [List.mapM_cons, he', hlists]
            rfl
          · rw [List.flatten_cons, List.map_append, rests, List.map_cons, List.map_cons, same]
            rfl

/-- A body in which a group is split becomes the same entries, up to their spans. -/
theorem switchEntries_split {group split : ParseTree} {front back parts : List ParseTree}
    {es : List Node} (h : r.switchEntries body = .ok es)
    (before : body.namedChildren = front ++ group :: back) (splits : group.Splits parts)
    (after : split.namedChildren = front ++ (parts ++ back)) :
    ∃ es', r.switchEntries split = .ok es' ∧ es'.map (·.construct) = es.map (·.construct) := by
  have kept : parts.filter (·.isSwitchPart) = parts := by
    refine List.filter_eq_self.2 fun p hp => ?_
    simp [isSwitchPart, splits.groups p hp]
  have here : body.switchParts =
      front.filter (·.isSwitchPart) ++ ([group] ++ back.filter (·.isSwitchPart)) := by
    rw [switchParts, before, List.filter_append, List.filter_cons_of_pos]
    · rfl
    · simp [isSwitchPart, splits.type]
  have there : split.switchParts =
      front.filter (·.isSwitchPart) ++ (parts ++ back.filter (·.isSwitchPart)) := by
    rw [switchParts, after, List.filter_append, List.filter_append, kept]
  obtain ⟨lists, hlists, rfl⟩ := switchEntries_eq_ok.1 h
  rw [here, mapM_append_eq_ok] at hlists
  obtain ⟨first, _, hfirst, hlists, rfl⟩ := hlists
  obtain ⟨middle, last, hmiddle, hlast, rfl⟩ := mapM_append_eq_ok.1 hlists
  obtain ⟨ns, hns, rfl⟩ := mapM_singleton_eq_ok.1 hmiddle
  have group : ∃ lists, parts.mapM r.entriesOf = .ok lists ∧
      lists.flatten.map (·.construct) = ns.map (·.construct) := by
    rw [entriesOf, splits.type] at hns
    obtain ⟨statements, hstatements, hns⟩ := bind_eq_ok.1 hns
    exact mapM_entriesOf_of_groupOf splits.groups splits.labels splits.early splits.last
      hstatements hns
  obtain ⟨pieces, hpieces, same⟩ := group
  refine ⟨_, switchEntries_eq_ok.2 ⟨first ++ (pieces ++ last), ?_, rfl⟩, ?_⟩
  · rw [there]
    exact mapM_append_eq_ok.2 ⟨first, _, hfirst,
      mapM_append_eq_ok.2 ⟨pieces, last, hpieces, hlast, rfl⟩, rfl⟩
  · simp only [List.flatten_append, List.map_append, same, List.flatten_cons, List.flatten_nil,
      List.append_nil]

/-- The entries of a switch keep all labels and statements of its body, and the statements that
they count stay the same if a group of the body is split. -/
theorem switchEntries_flattens {entries : List Node} (labelled : body.Labelled)
    (h : r.switchEntries body = .ok entries) :
    entries.length = (body.switchParts.map (·.switchLabels.length)).sum ∧
    (body.switchParts.flatMap entryTrees).mapM r.statement =
      .ok (entries.flatMap Node.entryStatements) ∧
    (∃ lists, lists.flatten = entries ∧ List.Forall₂ r.Flattens body.switchParts lists) ∧
    ∃ sum, Node.statementSum entries = .ok sum ∧
      ∀ front group back parts split, body.namedChildren = front ++ group :: back →
        group.Splits parts → split.namedChildren = front ++ (parts ++ back) →
        ∃ entries', r.switchEntries split = .ok entries' ∧
          entries'.map (·.construct) = entries.map (·.construct) ∧
          Node.statementSum entries' = .ok sum := by
  have flattens : ∃ lists, lists.flatten = entries ∧
      List.Forall₂ r.Flattens body.switchParts lists := by
    obtain ⟨lists, hlists, same⟩ := switchEntries_eq_ok.1 h
    refine ⟨lists, same, ?_⟩
    obtain ⟨pairs, parts, rfl, reads⟩ := mapM_eq_ok hlists
    rw [← parts, List.forall₂_map_left_iff, List.forall₂_map_right_iff, List.forall₂_same]
    intro p hp
    have part : p.1 ∈ body.switchParts := by
      rw [← parts]
      exact List.mem_map_of_mem hp
    exact entriesOf_flattens labelled part (reads p hp)
  have serves : ∀ e ∈ entries, ∃ c, e.Serves c := by
    obtain ⟨pairs, rfl, -, reads⟩ := switchEntries_reads (followsBelow r _) h
    intro e he
    obtain ⟨p, hp, rfl⟩ := List.mem_map.1 he
    exact ⟨_, (reads p hp).serves⟩
  obtain ⟨sum, hsum⟩ := Node.exists_statementSum serves
  obtain ⟨lists, rfl, parts⟩ := flattens
  obtain ⟨count, statements⟩ := flattens_flatten parts
  refine ⟨count, statements, ⟨lists, rfl, parts⟩, sum, hsum, ?_⟩
  intro front group back pieces split before splits after
  obtain ⟨entries', reads, same⟩ := switchEntries_split h before splits after
  refine ⟨entries', reads, same, ?_⟩
  rw [Node.statementSum_congr same, hsum]

/-! ## A group with two labels -/

section Falls

def fallSource : SourceText :=
  .ofString "class A\x7b\x7bswitch(x)\x7bcase 1:case 2:return;default:\x7d\x7d\x7d"

def fallReading : Reading := ⟨"A.java", fallSource⟩

def caseNumber (start : Nat) : ParseTree :=
  ⟨"decimal_integer_literal", true, false, start, start + 1, none, []⟩

def caseLabel (start : Nat) : ParseTree :=
  ⟨"switch_label", true, false, start, start + 6, none,
    [⟨"case", false, false, start, start + 4, none, []⟩, caseNumber (start + 5)]⟩

def fallReturn : ParseTree :=
  ⟨"return_statement", true, false, 33, 40, none,
    [⟨"return", false, false, 33, 39, none, []⟩, ⟨";", false, false, 39, 40, none, []⟩]⟩

def fallGroup : ParseTree :=
  ⟨"switch_block_statement_group", true, false, 19, 40, none,
    [caseLabel 19, ⟨":", false, false, 25, 26, none, []⟩, caseLabel 26,
      ⟨":", false, false, 32, 33, none, []⟩, fallReturn]⟩

def fallDefault : ParseTree :=
  ⟨"switch_block_statement_group", true, false, 40, 48, none,
    [⟨"switch_label", true, false, 40, 47, none, [⟨"default", false, false, 40, 47, none, []⟩]⟩,
      ⟨":", false, false, 47, 48, none, []⟩]⟩

def fallBody : ParseTree :=
  ⟨"switch_block", true, false, 18, 49, some "body",
    [⟨"\x7b", false, false, 18, 19, none, []⟩, fallGroup, fallDefault,
      ⟨"\x7d", false, false, 48, 49, none, []⟩]⟩

/-- The first label in a group of its own. -/
def firstGroup : ParseTree :=
  ⟨"switch_block_statement_group", true, false, 19, 26, none,
    [caseLabel 19, ⟨":", false, false, 25, 26, none, []⟩]⟩

def secondGroup : ParseTree :=
  ⟨"switch_block_statement_group", true, false, 26, 40, none,
    [caseLabel 26, ⟨":", false, false, 32, 33, none, []⟩, fallReturn]⟩

def splitBody : ParseTree :=
  ⟨"switch_block", true, false, 18, 49, some "body",
    [⟨"\x7b", false, false, 18, 19, none, []⟩, firstGroup, secondGroup, fallDefault,
      ⟨"\x7d", false, false, 48, 49, none, []⟩]⟩

def fallEntries : List Node :=
  [.bare (.ofLines 1 20 1 25) (.switchEntry [.bare (.ofLines 1 25 1 25) (.plainExpression [])] []
      false),
    .bare (.ofLines 1 27 1 40) (.switchEntry [.bare (.ofLines 1 32 1 32) (.plainExpression [])]
      [.bare (.ofLines 1 34 1 40) (.returnStatement none)] false),
    .bare (.ofLines 1 41 1 48) (.switchEntry [] [] true)]

theorem labelled_fallBody : fallBody.Labelled where
  groups := by decide
  rules := by decide

theorem splits_fallGroup : fallGroup.Splits [firstGroup, secondGroup] where
  type := rfl
  groups := by decide
  labels := rfl
  early := by
    intro p hp
    obtain rfl := List.mem_singleton.1 hp
    rfl
  last := by
    intro p hp
    cases hp
    rfl

theorem expression_caseNumber (start : Nat) : fallReading.expression (caseNumber start) =
    .ok (fallReading.node (caseNumber start) (.plainExpression [])) := by
  have nested : outermostCode (caseNumber start).namedChildren = [] := by
    simp [caseNumber, namedChildren, outermostCode]
  rw [expression_eq]
  show fallReading.plainExpression (caseNumber start) = _
  rw [plainExpression_eq, nested]
  rfl

theorem switchEntry_caseLabel (start : Nat) (span : Span) (statements : List Node) :
    fallReading.switchEntry (caseLabel start) span statements = .ok (.bare span
      (.switchEntry [fallReading.node (caseNumber (start + 5)) (.plainExpression [])] statements
        false)) := by
  rw [switchEntry_eq]
  show (do
    let labels ← [caseNumber (start + 5)].mapM fallReading.expression
    return Node.bare span (.switchEntry labels statements false)) = _
  rw [List.mapM_cons, expression_caseNumber]
  rfl

theorem statement_fallReturn : fallReading.statement fallReturn =
    .ok (.bare (.ofLines 1 34 1 40) (.returnStatement none)) := by
  rw [statement_eq]
  show fallReading.simpleStatement fallReturn = _
  rw [simpleStatement_eq]
  rfl

theorem switchEntries_fallBody : fallReading.switchEntries fallBody = .ok fallEntries := by
  have group : fallReading.entriesOf fallGroup = .ok (fallEntries.take 2) := by
    show (do
      let statements ← [fallReturn].mapM fallReading.statement
      fallReading.groupOf fallGroup statements [caseLabel 19, caseLabel 26]) = _
    rw [List.mapM_cons, statement_fallReturn]
    show fallReading.groupOf fallGroup [.bare (.ofLines 1 34 1 40) (.returnStatement none)]
      [caseLabel 19, caseLabel 26] = _
    simp only [groupOf, switchEntry_caseLabel]
    rfl
  have default : fallReading.entriesOf fallDefault = .ok (fallEntries.drop 2) := by
    show (do return [← fallReading.switchEntry _ _ []]) = _
    rw [switchEntry_eq]
    rfl
  rw [switchEntries_eq]
  show (fun lists => lists.flatMap id) <$> [fallGroup, fallDefault].mapM fallReading.entriesOf = _
  rw [List.mapM_cons, List.mapM_cons, group, default]
  rfl

/-- The two labels and the default become three entries, also if each label has its own group. -/
theorem switchEntries_splitBody :
    fallEntries.length = (fallBody.switchParts.map (·.switchLabels.length)).sum ∧
    ∃ sum, Node.statementSum fallEntries = .ok sum ∧
      ∃ entries', fallReading.switchEntries splitBody = .ok entries' ∧
        entries'.map (·.construct) = fallEntries.map (·.construct) ∧
        Node.statementSum entries' = .ok sum := by
  obtain ⟨count, -, -, sum, hsum, splits⟩ :=
    switchEntries_flattens labelled_fallBody switchEntries_fallBody
  exact ⟨count, sum, hsum, splits [] fallGroup [fallDefault] [firstGroup, secondGroup] splitBody
    rfl splits_fallGroup rfl⟩

end Falls

end Reading

end JavaCensus
