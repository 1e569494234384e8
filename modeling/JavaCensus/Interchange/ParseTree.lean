import JavaCensus.Json.Access
import JavaCensus.Source.ParseTree

/-!
# Parse trees as documents

A node is an array of its type, its flags, the two ends of its range, its field or null, and its
children. Flag `n` marks a named node and flag `m` a missing one.
-/
namespace JavaCensus

namespace ParseTree

/-- The node of a type, flags, range and field, without children. -/
def leaf (type flags start stop field : Json) : ParseTree :=
  ⟨type.toText, 'n' ∈ flags.toText.toList, 'm' ∈ flags.toText.toList, start.toNat, stop.toNat,
    field.string?, []⟩

mutual

/-- Reads a tree; what is no node of a tree reads as a token without a type. -/
def ofJson : Json → ParseTree
  | .array [type, flags, start, stop, field, .array children] =>
    { leaf type flags start stop field with children := ofElements children }
  | .array [type, flags, start, stop, field, _] => leaf type flags start stop field
  | _ => leaf .null .null .null .null .null

def ofElements : List Json → List ParseTree
  | [] => []
  | j :: js => ofJson j :: ofElements js

end

end ParseTree

/-- The parse that an object holds as its members `tree` and `has_error`. -/
def Parse.ofJson (j : Json) : Parse :=
  ⟨.ofJson (j.member "tree"), (j.member "has_error").toBool⟩

end JavaCensus
