import JavaCensus.Files.Path

/-!
# File trees

Directories hold named entries: files, links and directories. A path is resolved step by step. A
link leads on from the directory that holds it, and only so many links are followed, so every
resolution comes to an end. Permissions are left out: names and paths that are too long are all that
keeps a reader from what stands in a tree.
-/
namespace JavaCensus

/-- A link holds the path that it was made with. -/
inductive Entry where
  | file (bytes : List UInt8)
  | link (target : String)
  | directory (entries : List (String × Entry))

namespace Entry

/-- The entry that names lead to; links are not followed. -/
def at? : List String → Entry → Option Entry
  | [], e => some e
  | name :: names, directory entries =>
    match entries.find? (·.1 == name) with
    | some (_, e) => at? names e
    | none => none
  | _ :: _, _ => none

/-- The entries of a directory with one of them replaced or added. -/
def setEntry (name : String) (e : Entry) : List (String × Entry) → List (String × Entry)
  | [] => [(name, e)]
  | (n, old) :: rest => if n = name then (n, e) :: rest else (n, old) :: setEntry name e rest

def entries : Entry → List (String × Entry)
  | directory entries => entries
  | _ => []

/-- Puts an entry where names lead to; directories on the way are made if need be. -/
def put (t : Entry) (names : List String) (e : Entry) : Entry :=
  match names with
  | [] => e
  | name :: names =>
    let old := ((t.entries.find? (·.1 == name)).map (·.2)).getD (directory [])
    directory (setEntry name (put old names e) t.entries)

/-- The size that is told of an entry; directories are told to fill one block. -/
def size : Entry → Int
  | file bytes => bytes.length
  | link target => target.utf8ByteSize
  | directory _ => 4096

end Entry

/-- The steps of a written path; a slash at its end is a step to the directory itself. -/
def stepsOf (written : String) : List String :=
  let segments := Path.segments written.toList
  let steps := (segments.filter (· != [])).map String.ofList
  if segments.getLast? = some [] then steps ++ ["."] else steps

/-- A tree from its root on, how the root is written, and the directory that relative paths start
from. -/
structure FileSystem where
  rootText : String
  root : Entry
  working : List String

/-- Why a path leads nowhere. -/
inductive PathFault where
  | missing
  | notADirectory
  | tooManyLinks
  | tooLong
  deriving DecidableEq, Repr

/-- Where a path has led: a file or a directory, its place under the root, and how many more links
may be followed from there. -/
structure Located where
  place : List String
  entry : Entry
  hops : Nat

namespace FileSystem

variable (fs : FileSystem)

/-- The number of links that a path may lead through. -/
def maxHops : Nat := 40

/-- The bytes that a name may take. -/
def maxNameSize : Nat := 255

/-- The bytes that a path may take as it is written. -/
def maxPathSize : Nat := 4095

/-- The directory that a path with the given root starts from. -/
def start (root : String) (here : List String) : Except PathFault (List String) :=
  if root = "" then .ok here else if root = fs.rootText then .ok [] else .error .missing

/-- Takes steps from a directory. -/
def follow (hops : Nat) (place steps : List String) : Except PathFault Located :=
  match steps with
  | [] =>
    match fs.root.at? place with
    | some e => .ok ⟨place, e, hops⟩
    | none => .error .missing
  | step :: steps =>
    match fs.root.at? place with
    | some (.directory entries) =>
      if step = "." then follow hops place steps
      else if step = ".." then follow hops place.dropLast steps
      else if maxNameSize < step.utf8ByteSize then .error .tooLong
      else
        match entries.find? (·.1 == step) with
        | none => .error .missing
        | some (_, .link target) =>
          match hops, fs.start (Path.rootOf target.toList) place with
          | 0, _ => .error .tooManyLinks
          | _, .error e => .error e
          | hops + 1, .ok start => follow hops start (stepsOf target ++ steps)
        | some _ => follow hops (place ++ [step]) steps
    | some _ => .error .notADirectory
    | none => .error .missing
termination_by (hops, steps.length)

/-- Takes the steps of a path that is written so, from its root on. -/
def resolveSteps (written root : String) (steps : List String) : Except PathFault Located :=
  if Path.holdsNul written then .error .missing
  else if maxPathSize < written.utf8ByteSize then .error .tooLong
  else
    match fs.start root fs.working with
    | .ok start => fs.follow maxHops start steps
    | .error e => .error e

def resolve (p : Path) : Except PathFault Located :=
  fs.resolveSteps p.text p.root p.parts

/-- Resolves a path as it is written; the empty path leads nowhere. -/
def resolveWritten (written : String) : Except PathFault Located :=
  if written = "" then .error .missing
  else fs.resolveSteps written (Path.rootOf written.toList) (stepsOf written)

/-- The bytes of the file that a path leads to, if it leads to a file. -/
def bytesAt? (p : Path) : Option (List UInt8) :=
  match fs.resolve p with
  | .ok ⟨_, .file bytes, _⟩ => some bytes
  | _ => none

end FileSystem

end JavaCensus
