import JavaCensus.Source.Reading

/-!
# Admission

What is checked of a parse tree before it is read: that the grammar had nothing to repair, and that
the language level has the features that are used.
-/
namespace JavaCensus

namespace Reading

variable (r : Reading)

/-- What is wrong with a single tree of a unit that the grammar had to repair. -/
def fault? (t : ParseTree) : Option Rejection :=
  if t.missing then some (.missing t.type)
  else if t.type == "ERROR" then
    some (.malformedAt (.ofList ((Text.squeeze (r.source.text t)).take 40)))
  else none

/-- Refuses a unit that the grammar had to repair, for its first fault. -/
def checkRepairs (parse : Parse) : Read Unit :=
  if !parse.hasError then .ok ()
  else
    match parse.root.descendants.find? fun m => (r.fault? m.tree).isSome with
    | some m => r.reject m.tree ((r.fault? m.tree).getD .malformed)
    | none => .error (.rejected r.unit .malformed none)

/-- Below these a switch is a statement and no expression. -/
def statementParents : List String :=
  ["program", "block", "constructor_body", "switch_block_statement_group", "labeled_statement",
    "if_statement", "while_statement", "for_statement", "enhanced_for_statement", "do_statement"]

/-- The feature that a tree makes use of. -/
def feature? (m : ParseTree.Met) : Option Feature :=
  let t := m.tree
  match t.type with
  | "module_declaration" => some .modules
  | "record_declaration" => some .records
  | "yield_statement" => some .yieldStatements
  | "switch_rule" => some .switchExpressions
  | "switch_expression" =>
    if m.parentType.any (· ∉ statementParents) then some .switchExpressions else none
  | "text_block" | "string_literal" =>
    if ['"', '"', '"'].isPrefixOf (r.source.text t) then some .textBlocks else none
  | "instanceof_expression" =>
    if (t.field? "name").isSome ||
        t.namedChildren.any fun c => c.type == "type_pattern" || c.type == "record_pattern" then
      some .instanceofPatterns
    else none
  | "permits" | "sealed" | "non-sealed" => some .sealedClasses
  | "method_declaration" =>
    if m.parentType == some "interface_body" && .private ∈ modifiers t then
      some .privateInterfaceMethods
    else none
  | _ => none

def checkFeature (level : LanguageLevel) (preview : Bool) (m : ParseTree.Met) : Read Unit :=
  match r.feature? m with
  | none => .ok ()
  | some feature =>
    if feature.supported level preview then .ok ()
    else r.reject m.tree (.unsupported feature level preview)

/-- Refuses a unit for the first feature that its language level does not have. -/
def checkFeatures (level : LanguageLevel) (preview : Bool) (root : ParseTree) : Read Unit :=
  (root.descendants.filter fun m => !m.tree.isComment).forM (r.checkFeature level preview)

/-- The comments of a unit, numbered in the order of the walk. -/
def comments (root : ParseTree) : List Comment :=
  (root.descendants.filter (·.tree.isComment)).mapIdx fun i m =>
    .ofText i (r.source.text m.tree) (r.source.span m.tree)

end Reading

end JavaCensus
