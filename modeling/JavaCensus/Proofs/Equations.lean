import JavaCensus.Proofs.Reads

/-!
# Equations of the reader

The reader goes from a tree to smaller ones and carries along that they are smaller. Here are its
equations without that, over the trees alone.
-/
namespace JavaCensus

/-! ## Parts of a tree -/

namespace ParseTree

variable (t : ParseTree)

theorem parts_eq : t.parts.map (·.tree) = t.namedChildren.filter fun c => !c.isComment := by
  rw [← namedChildren_eq, List.filter_map]
  rfl

theorem fieldsBelow_eq (name : String) :
    (t.fieldsBelow name).map (·.tree) = t.children.filter (·.field == some name) := by
  rw [← map_childrenBelow, List.filter_map]
  rfl

/-- The first named tree after the word "default" that is no comment. -/
def afterDefault : List ParseTree → Option ParseTree
  | [] => none
  | c :: cs =>
    if c.type == "default" then
      cs.find? fun d => d.type != "default" && d.named && !d.isComment
    else afterDefault cs

theorem afterDefault?_map (cs : List t.Below) :
    (afterDefault? cs).map (·.tree) = afterDefault (cs.map (·.tree)) := by
  induction cs with
  | nil => rfl
  | cons c cs ih =>
    rw [afterDefault?, List.map_cons, afterDefault]
    split
    · rw [List.find?_map]
      rfl
    · exact ih

theorem defaultValue?_eq :
    t.defaultValue?.map (·.tree) = (t.field? "value").or (afterDefault t.children) := by
  rw [← field?_eq, ← map_childrenBelow, ← afterDefault?_map, defaultValue?]
  cases t.fieldBelow? "value" <;> rfl

end ParseTree

/-! ## Functions of the reader -/

namespace Reading

open ParseTree

variable {r : Reading}

section Parts

variable {t : ParseTree} {α : Type}

theorem mapM_below (cs : List t.Below) (f : ParseTree → Read α) :
    (cs.mapM fun c => f c.tree) = (cs.map (·.tree)).mapM f := by
  rw [List.mapM_map]
  rfl

theorem bind_required_field? (name : String) (f : ParseTree → Read α) :
    (required (t.field? name) >>= f) = required (t.fieldBelow? name) >>= fun c => f c.tree := by
  rw [← field?_eq]
  cases t.fieldBelow? name <;> rfl

theorem namedOfType?_map (type : String) :
    (t.namedOfType? type).map (·.tree) = t.namedChildren.find? (·.type == type) := by
  rw [← namedChildren_eq, List.find?_map]
  rfl

theorem bind_found_named? (type : String) (f : ParseTree → Read α) :
    (found (t.namedChildren.find? (·.type == type)) >>= f) =
      found (t.namedOfType? type) >>= fun c => f c.tree := by
  rw [← namedOfType?_map]
  cases t.namedOfType? type <;> rfl

theorem bind_mapM_some {β : Type} (c : ParseTree) (f : ParseTree → Read α)
    (g : Option α → Read β) :
    ((some c).mapM f >>= g) = f c >>= fun a => g (some a) := by
  simp

end Parts

variable (t : ParseTree)

theorem plainExpression_eq :
    r.plainExpression t =
      return r.node t (.plainExpression (← (outermostCode t.namedChildren).mapM r.expression)) := by
  rw [plainExpression, mapM_below]
  simp [nestedCode]

theorem arguments_eq : r.arguments t = t.argumentTrees.mapM r.expression := by
  rw [Reading.arguments, argumentTrees, ← field?_eq]
  cases t.fieldBelow? "arguments" with
  | none => rfl
  | some list => exact mapM_below _ _

theorem statementList_eq (skip : List String) :
    r.statementList skip t = (t.statementTrees skip).mapM r.statement := by
  rw [statementList, mapM_below, statementParts_eq]

theorem members_eq (components : List Parameter) :
    r.members components t = (t.parts.map (·.tree)).mapM (r.member components) := by
  rw [Reading.members, mapM_below]

/-- The lambda that a tree is read as. -/
def lambdaOf (r : Reading) (t : ParseTree) : Read Node := do
  let body ← required (t.field? "body")
  if body.type == "block" then return r.node t (.lambda (← r.block body))
  else return r.node t (.lambda (← r.expression body))

/-- The object creation that a tree is read as, which is a plain one without a class body. -/
def creationOf (r : Reading) (t : ParseTree) : Read Node :=
  match t.namedChildren.find? (·.type == "class_body") with
  | some body => do
    let type ← r.fieldText t "type"
    let arguments ← r.arguments t
    return r.node t (.objectCreation type arguments (some (← r.members [] body)))
  | none => r.plainExpression t

theorem expression_eq :
    r.expression t = match t.type with
      | "lambda_expression" => r.lambdaOf t
      | "switch_expression" => do
        let condition ← required (t.field? "condition")
        let selector ← r.expression condition
        let body ← required (t.field? "body")
        return r.node t (.switchExpression selector (← r.switchEntries body))
      | "object_creation_expression" => r.creationOf t
      | _ => r.plainExpression t := by
  rw [expression]
  simp only [lambdaOf, creationOf, bind_required_field?, ← namedOfType?_map]
  cases t.namedOfType? "class_body" <;> rfl

theorem block_eq : r.block t = return r.node t (.block (← t.blockTrees.mapM r.statement)) := by
  rw [block, statementList_eq]
  rfl

theorem declarators_eq :
    r.declarators t = ((t.fieldsBelow "declarator").map (·.tree)).mapM fun c => do
      let name ← r.fieldText c "name"
      return r.node c (.variableDeclarator name (← (c.field? "value").mapM r.expression)) := by
  rw [declarators, ← mapM_below]
  congr 1
  funext c
  rw [← field?_eq c.tree "value"]
  cases c.tree.fieldBelow? "value" with
  | none => rfl
  | some value => simp only [Option.map_some, bind_mapM_some]

theorem switchEntry_eq (label : ParseTree) (span : Span) (statements : List Node) :
    r.switchEntry label span statements = do
      let labels ← (label.parts.map (·.tree)).mapM r.expression
      return .bare span
        (.switchEntry labels statements (label.children.any (·.type == "default"))) := by
  rw [switchEntry, mapM_below]

/-- The entries of a group with the given labels. -/
def groupOf (r : Reading) (t : ParseTree) (statements : List Node) :
    List ParseTree → Read (List Node)
  | [] => .ok []
  | [label] => do
    let entry ← r.switchEntry label ⟨(r.source.span label).start, (r.source.span t).stop⟩ statements
    return [entry]
  | label :: rest => do
    let entry ← r.switchEntry label (r.source.span label) []
    return entry :: (← groupOf r t statements rest)

theorem groupEntries_eq (statements : List Node) (labels : List t.Below) :
    r.groupEntries t statements labels = r.groupOf t statements (labels.map (·.tree)) := by
  induction labels with
  | nil => rw [groupEntries]; rfl
  | cons label rest ih =>
    cases rest with
    | nil => rw [groupEntries]; rfl
    | cons other rest =>
      rw [groupEntries, ih]
      · rfl
      · exact List.cons_ne_nil _ _

/-- The entries that a part of a switch body becomes. -/
def entriesOf (r : Reading) (t : ParseTree) : Read (List Node) :=
  match t.type with
  | "switch_block_statement_group" => do
    let statements ← t.entryTrees.mapM r.statement
    r.groupOf t statements (t.namedChildren.filter (·.type == "switch_label"))
  | "switch_rule" => do
    let label ← found (t.namedChildren.find? (·.type == "switch_label"))
    let statements ← t.entryTrees.mapM r.statement
    return [← r.switchEntry label (r.source.span t) statements]
  | _ => return []

theorem switchEntries_eq :
    r.switchEntries t = (fun lists => lists.flatMap id) <$> t.namedChildren.mapM r.entriesOf := by
  rw [switchEntries, ← namedChildren_eq, ← mapM_below, map_eq_pure_bind]
  simp only [List.flatMap_id]
  congr 1
  congr 1
  funext c
  unfold entriesOf
  simp only [statementList_eq, groupEntries_eq, bind_found_named?]
  rw [← namedChildren_eq, List.filter_map]
  rfl

/-- The resource of a try statement that a tree is read as. -/
def resourceOf (r : Reading) (t : ParseTree) : Read Node :=
  let name := r.text ((t.field? "name").getD t)
  return r.node t (.resource name (← (t.field? "value").mapM r.expression))

/-- The part of a try statement that a tree is read as, if it is one. -/
def tryPartOf (r : Reading) (t : ParseTree) : Read (Option TryPart) :=
  match t.type with
  | "catch_clause" => do
    let parameter ← found (t.namedChildren.find? (·.type == "catch_formal_parameter"))
    let type ← found (parameter.namedChildren.find? (·.type == "catch_type"))
    let name ← r.fieldText parameter "name"
    let body ← required (t.field? "body")
    return some (.catch (r.node t (.catchClause ⟨r.typeText type, name⟩ (← r.block body))))
  | "finally_clause" => do
    let body ← found (t.namedChildren.find? (·.type == "block"))
    return some (.last (← r.block body))
  | _ => return none

theorem tryStatement_eq :
    r.tryStatement t = do
      let resources ← t.resourceTrees.mapM r.resourceOf
      let parts ← (fun parts => parts.flatMap Option.toList) <$> t.namedChildren.mapM r.tryPartOf
      let body ← required (t.field? "body")
      return r.node t (.tryStatement resources (← r.block body) (parts.filterMap TryPart.catch?)
        (parts.filterMap TryPart.last?).getLast?) := by
  rw [Reading.tryStatement, resourceTrees, ← field?_eq, ← namedChildren_eq, ← mapM_below,
    map_eq_pure_bind]
  unfold tryPartOf
  simp only [bind_found_named?, bind_required_field?, bind_assoc, pure_bind,
    List.filterMap_eq_flatMap_toList, id]
  cases t.fieldBelow? "resources" with
  | none => rfl
  | some specification =>
    simp only [Option.map_some, ← mapM_below]
    congr 2
    funext c
    rw [resourceOf, ← field?_eq c.tree "value"]
    cases c.tree.fieldBelow? "value" with
    | none => rfl
    | some value => simp only [Option.map_some, bind_mapM_some]

theorem forStatement_eq :
    r.forStatement t = do
      let init ← ((t.fieldsBelow "init").map (·.tree)).mapM fun c =>
        if c.type == "local_variable_declaration" then r.statement c else r.expression c
      let body ← required (t.field? "body")
      let body ← r.statement body
      let condition ← (t.field? "condition").mapM r.expression
      let update ← ((t.fieldsBelow "update").map (·.tree)).mapM r.expression
      return r.node t (.forStatement init condition update body) := by
  rw [Reading.forStatement, ← field?_eq t "condition", ← mapM_below, ← mapM_below]
  simp only [bind_required_field?]
  cases t.fieldBelow? "condition" <;> rfl

theorem ifStatement_eq :
    r.ifStatement t = do
      let condition ← required (t.field? "condition")
      let condition ← r.expression condition
      let consequence ← required (t.field? "consequence")
      let consequence ← r.statement consequence
      let alternative ← (t.field? "alternative").mapM r.statement
      return r.node t (.ifStatement condition consequence alternative) := by
  rw [Reading.ifStatement, ← field?_eq t "alternative"]
  simp only [bind_required_field?]
  cases t.fieldBelow? "alternative" with
  | none => rfl
  | some c => simp only [Option.map_some, bind_mapM_some]

theorem soleExpression_eq :
    r.soleExpression t = match t.parts.map (·.tree) with
      | [] => r.reject t (.empty t.type)
      | c :: _ => r.expression c := by
  rw [soleExpression]
  cases t.parts <;> rfl

/-- The return statement that a tree is read as. -/
def returnOf (r : Reading) (t : ParseTree) : Read Node :=
  match t.parts.map (·.tree) with
  | [] => return r.node t (.returnStatement none)
  | c :: _ => return r.node t (.returnStatement (some (← r.expression c)))

/-- The assertion that a tree is read as. -/
def assertionOf (r : Reading) (t : ParseTree) : Read Node :=
  match t.parts.map (·.tree) with
  | [] => .error (.mishap .absentPlace)
  | [c] => return r.node t (.assertStatement (← r.expression c) none)
  | c :: d :: _ => do
    let check ← r.expression c
    return r.node t (.assertStatement check (some (← r.expression d)))

theorem simpleStatement_eq :
    r.simpleStatement t = match t.type with
      | "expression_statement" => return r.node t (.expressionStatement (← r.soleExpression t))
      | "yield_statement" => return r.node t (.yieldStatement (← r.soleExpression t))
      | "throw_statement" => return r.node t (.throwStatement (← r.soleExpression t))
      | "break_statement" => return r.node t (.breakStatement (r.optionalIdentifier t))
      | "continue_statement" => return r.node t (.continueStatement (r.optionalIdentifier t))
      | "return_statement" => r.returnOf t
      | "assert_statement" => r.assertionOf t
      | "explicit_constructor_invocation" => do
        let isThis := (t.field? "constructor").any (·.type == "this")
        return r.node t (.constructorCall isThis (← r.arguments t) false)
      | _ => r.reject t (.unsupportedStatement t.type) := by
  rw [simpleStatement, returnOf, assertionOf]
  match t.parts with
  | [] => rfl
  | [_] => rfl
  | _ :: _ :: _ => rfl

theorem bind_placed_last {α : Type} (f : ParseTree → Read α) :
    (placed t.children.getLast? >>= f) = placed t.childrenBelow.getLast? >>= fun c => f c.tree := by
  rw [← map_childrenBelow, List.getLast?_map]
  cases t.childrenBelow.getLast? <;> rfl

theorem bind_placed_first {α : Type} (f : ParseTree → Read α) :
    (placed (t.parts.map (·.tree)).head? >>= f) = placed t.parts.head? >>= fun c => f c.tree := by
  rw [List.head?_map]
  cases t.parts.head? <;> rfl

theorem statement_eq :
    r.statement t = if t.isTypeDeclaration then r.typeDeclaration t
      else match t.type with
      | "block" => r.block t
      | ";" => return r.node t .emptyStatement
      | "local_variable_declaration" => do
        let type ← r.fieldText t "type"
        return r.node t (.localDeclaration type (← r.declarators t))
      | "labeled_statement" => do
        let label ← found (t.namedChildren.find? (·.type == "identifier"))
        let last ← placed t.children.getLast?
        return r.node t (.labeledStatement (r.text label) (← r.statement last))
      | "if_statement" => r.ifStatement t
      | "while_statement" => do
        let condition ← required (t.field? "condition")
        let condition ← r.expression condition
        let body ← required (t.field? "body")
        return r.node t (.whileStatement condition (← r.statement body))
      | "do_statement" => do
        let body ← required (t.field? "body")
        let body ← r.statement body
        let condition ← required (t.field? "condition")
        return r.node t (.doStatement body (← r.expression condition))
      | "for_statement" => r.forStatement t
      | "enhanced_for_statement" => do
        let type ← r.fieldText t "type"
        let name ← r.fieldText t "name"
        let value ← required (t.field? "value")
        let value ← r.expression value
        let body ← required (t.field? "body")
        return r.node t (.forEachStatement ⟨type, name⟩ value (← r.statement body))
      | "synchronized_statement" => do
        let lock ← placed (t.parts.map (·.tree)).head?
        let lock ← r.expression lock
        let body ← required (t.field? "body")
        return r.node t (.synchronizedStatement lock (← r.block body))
      | "try_statement" | "try_with_resources_statement" => r.tryStatement t
      | "switch_expression" => do
        let condition ← required (t.field? "condition")
        let selector ← r.expression condition
        let body ← required (t.field? "body")
        return r.node t (.switchStatement selector (← r.switchEntries body))
      | _ => r.simpleStatement t := by
  simp only [bind_required_field?, bind_found_named?, bind_placed_last, bind_placed_first]
  exact statement.eq_def r t

theorem bodyMembers_eq (components : List Parameter) :
    r.bodyMembers components t = t.memberTrees.mapM (r.member components) := by
  rw [bodyMembers, memberTrees, ← field?_eq]
  cases t.fieldBelow? "body" with
  | none => rfl
  | some body => exact members_eq body.tree components

/-- The part of an enum that a tree is read as, if it is one. -/
def enumPartOf (r : Reading) (t : ParseTree) : Read (Option EnumPart) :=
  match t.type with
  | "enum_constant" => return some (.constant (← r.enumConstant t))
  | "enum_body_declarations" => return some (.members (← r.members [] t))
  | _ => return none

theorem enumParts_eq :
    r.enumParts t = (fun parts => parts.flatMap Option.toList) <$>
      (((t.field? "body").map (·.namedChildren)).getD []).mapM r.enumPartOf := by
  rw [enumParts, ← field?_eq, map_eq_pure_bind]
  cases t.fieldBelow? "body" with
  | none => rfl
  | some body =>
    rw [Option.map_some, Option.map_some, Option.getD_some, ← namedChildren_eq, ← mapM_below]
    simp only [List.filterMap_eq_flatMap_toList, id]
    rfl

theorem enumConstant_eq :
    r.enumConstant t = do
      let name ← r.fieldText t "name"
      let arguments ← r.arguments t
      let body ← (t.field? "body").mapM (r.members [])
      return r.node t (.enumConstant name arguments body) := by
  rw [Reading.enumConstant, ← field?_eq]
  cases t.fieldBelow? "body" with
  | none => rfl
  | some body => simp only [Option.map_some, bind_mapM_some]

theorem constructorBody_eq :
    r.constructorBody t = required (t.field? "body") >>= r.block := by
  rw [constructorBody, bind_required_field?]

theorem method_eq :
    r.method t = do
      let type ← r.fieldText t "type"
      let dimensions := ((t.field? "dimensions").map r.text).getD ""
      let name ← r.fieldText t "name"
      let parameters ← r.parameters (t.field? "parameters")
      let body ← (t.field? "body").mapM r.block
      return r.node t (.callable (.method (type ++ dimensions)) name parameters body
        (modifiers t)) := by
  rw [Reading.method, ← field?_eq t "body"]
  cases t.fieldBelow? "body" <;> rfl

theorem annotationMember_eq :
    r.annotationMember t = do
      let name ← r.fieldText t "name"
      let type ← r.fieldText t "type"
      let value ← (t.defaultValue?.map (·.tree)).mapM r.expression
      return r.node t (.annotationMember name type value (modifiers t)) := by
  rw [Reading.annotationMember]
  cases t.defaultValue? with
  | none => rfl
  | some value => simp only [Option.map_some, bind_mapM_some]

theorem member_eq (components : List Parameter) :
    r.member components t = if t.isTypeDeclaration then r.typeDeclaration t
      else match t.type with
      | "field_declaration" | "constant_declaration" => do
        let type ← r.fieldText t "type"
        return r.node t (.fieldDeclaration type (← r.declarators t) (modifiers t))
      | "method_declaration" => r.method t
      | "constructor_declaration" => do
        let name ← r.fieldText t "name"
        let parameters ← r.parameters (t.field? "parameters")
        let body ← r.constructorBody t
        return r.node t (.callable .constructor name parameters (some body) (modifiers t))
      | "compact_constructor_declaration" => do
        let name ← r.fieldText t "name"
        let body ← r.constructorBody t
        return r.node t (.callable .constructor name components (some body) (modifiers t))
      | "static_initializer" => do
        let body ← found (t.namedChildren.find? (·.type == "block"))
        return r.node t (.initializerBlock (← r.block body) true)
      | "block" => return r.node t (.initializerBlock (← r.block t) false)
      | "annotation_type_element_declaration" => r.annotationMember t
      | "enum_constant" | "enum_body_declarations" => r.reject t (.outsideEnum t.type)
      | _ => r.reject t (.unexpectedMember t.type) := by
  simp only [bind_found_named?]
  exact member.eq_def r components t

end Reading

end JavaCensus
