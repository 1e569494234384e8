/-!
# Paths

A path has a root, which is empty for a relative path, and parts. Reading a path drops empty parts
and single dots; going up by two dots stays in it.
-/
namespace JavaCensus

structure Path where
  root : String
  parts : List String
  deriving DecidableEq, Repr

namespace Path

/-- Cuts a text at the slashes. -/
def segments : List Char → List (List Char)
  | [] => [[]]
  | '/' :: cs => [] :: segments cs
  | c :: cs =>
    match segments cs with
    | [] => [[c]]
    | s :: ss => (c :: s) :: ss

/-- The root of a written path: exactly two slashes in front are kept. -/
def rootOf : List Char → String
  | '/' :: '/' :: '/' :: _ => "/"
  | '/' :: '/' :: _ => "//"
  | '/' :: _ => "/"
  | _ => ""

def isPart (s : List Char) : Bool :=
  s != [] && s != ['.']

def ofString (s : String) : Path :=
  ⟨rootOf s.toList, ((segments s.toList).filter isPart).map .ofList⟩

/-- The text of the parts, a dot if there are none. -/
def joined (parts : List String) : String :=
  if parts.isEmpty then "." else "/".intercalate parts

def text (p : Path) : String :=
  if p.root = "" then joined p.parts else p.root ++ "/".intercalate p.parts

/-- The path below this one. -/
def below (p : Path) (parts : List String) : Path :=
  { p with parts := p.parts ++ parts }

/-- No file has a path with a null character in it. -/
def holdsNul (written : String) : Bool :=
  written.toList.contains '\x00'

/-- The last part, empty if there is none. -/
def name (p : Path) : String :=
  (p.parts.getLast?).getD ""

end Path

end JavaCensus
