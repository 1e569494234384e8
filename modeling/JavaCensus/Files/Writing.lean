import JavaCensus.Files.Tree

/-!
# Writing files

Where a file ends up that is written to a path. A link at the end of the path is followed, also one
that leads to nothing yet.
-/
namespace JavaCensus

inductive WriteFault where
  | path (fault : PathFault)
  | isDirectory
  deriving DecidableEq, Repr

namespace FileSystem

variable (fs : FileSystem)

/-- The place of the file that steps from a directory lead to. -/
def placeFor (hops : Nat) (place steps : List String) : Except WriteFault (List String) :=
  match steps.getLast?, fs.follow hops place steps.dropLast with
  | none, _ => .error .isDirectory
  | _, .error e => .error (.path e)
  | some name, .ok ⟨place, .directory entries, left⟩ =>
    if name = "." ∨ name = ".." then .error .isDirectory
    else if maxNameSize < name.utf8ByteSize then .error (.path .tooLong)
    else
      match entries.find? (·.1 == name) with
      | some (_, .directory _) => .error .isDirectory
      | some (_, .link target) =>
        match fs.start (Path.rootOf target.toList) place with
        | .error e => .error (.path e)
        | .ok start =>
          if 0 < left ∧ left ≤ hops then placeFor (left - 1) start (stepsOf target)
          else .error (.path .tooManyLinks)
      | _ => .ok (place ++ [name])
  | some _, .ok _ => .error (.path .notADirectory)
termination_by hops
decreasing_by omega

/-- The place of the file that writing to a path makes or replaces. -/
def placeToWrite (p : Path) : Except WriteFault (List String) :=
  if maxPathSize < p.text.utf8ByteSize then .error (.path .tooLong)
  else
    match fs.start p.root fs.working with
    | .ok start => fs.placeFor maxHops start p.parts
    | .error e => .error (.path e)

end FileSystem

end JavaCensus
