import JavaCensus.Error
import JavaCensus.Files.Path
import JavaCensus.Text.Glob
import JavaCensus.Toml.Value

/-!
# Exclusion

A file is excluded if a pattern matches its path relative to the directory that is searched, or
that path with a dot and a slash in front.
-/
namespace JavaCensus

/-- Whether a pattern excludes a relative path. -/
def excludedBy (path pattern : String) : Bool :=
  Text.Glob.globMatches pattern path || Text.Glob.globMatches pattern ("./" ++ path)

def isExcluded (path : String) (patterns : List String) : Bool :=
  patterns.any (excludedBy path)

/-- The patterns that a value holds: the elements of an array, the keys of a table, the characters
of a text. -/
def patternsOf : Value → Except Error (List Value)
  | .string s => .ok (s.toList.map fun c => .string (.ofList [c]))
  | .array elements => .ok elements
  | .table entries => .ok (entries.map fun (key, _) => .string key)
  | _ => .error (.mishap .wrongKind)

/-- Tries the patterns in turn; one that is no text fails when its turn comes. -/
def excludes (path : String) : List Value → Except Error Bool
  | [] => .ok false
  | .string p :: ps => if excludedBy path p then .ok true else excludes path ps
  | _ :: _ => .error (.mishap .wrongKind)

theorem excludes_texts (path : String) (patterns : List String) :
    excludes path (patterns.map .string) = .ok (isExcluded path patterns) := by
  induction patterns with
  | nil => rfl
  | cons p ps ih =>
    rw [List.map_cons, excludes, ih, isExcluded, isExcluded, List.any_cons]
    cases excludedBy path p <;> rfl

end JavaCensus
