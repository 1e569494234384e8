import JavaCensus.Files.Exclusion
import JavaCensus.Files.Tree
import JavaCensus.Log
import JavaCensus.Sorting

/-!
# Discovery of source files

A file that is named is found whatever its name. In a directory, its own source files come first,
then those of its subdirectories, each in the order of the names. A directory whose path is too long
is passed over, but a source whose path is too long stops the search.
-/
namespace JavaCensus

def isSourceName (name : String) : Bool :=
  ".java".toList.isSuffixOf name.toList

/-- What shows where a source may stand; to look there can fail. -/
inductive Sight where
  | file
  | nothing
  | hidden
  deriving DecidableEq, Repr

/-- Where a source may stand: the names that lead there, and what shows once it is looked at. -/
structure Candidate where
  names : List String
  sight : Sight
  deriving DecidableEq, Repr

def Candidate.under (name : String) (c : Candidate) : Candidate :=
  { c with names := name :: c.names }

/-- What an entry adds to a search: itself, and what stands below it. -/
structure Share where
  name : String
  own : List Candidate
  below : List Candidate

/-- The candidates of a directory itself, then those below, each in the order of the names. -/
def gather (shares : List Share) : List Candidate :=
  let ordered := sortBy (fun a b => !(b.name < a.name)) shares
  ordered.flatMap (·.own) ++ ordered.flatMap (·.below)

/-- What shows at the end of a link, and what stands below that. -/
structure LinkEnd where
  sight : Sight
  below : List Candidate

def LinkEnd.nothing : LinkEnd := ⟨.nothing, []⟩

def sourcesNamed (name : String) (sight : Sight) : List Candidate :=
  if isSourceName name then [⟨[name], sight⟩] else []

def linkShare (name : String) (e : LinkEnd) : Share :=
  ⟨name, sourcesNamed name e.sight, e.below.map (.under name)⟩

mutual

/-- The share of an entry that stands in the directory at a place. -/
def Entry.share (linkEnd : List String → String → LinkEnd) (place : List String) (name : String) :
    Entry → Share
  | .file _ => ⟨name, sourcesNamed name .file, []⟩
  | .link _ => linkShare name (linkEnd place name)
  | .directory entries =>
    ⟨name, [], (gather (shares linkEnd (place ++ [name]) entries)).map (.under name)⟩

def shares (linkEnd : List String → String → LinkEnd) (place : List String) :
    List (String × Entry) → List Share
  | [] => []
  | (name, e) :: rest => e.share linkEnd place name :: shares linkEnd place rest

end

theorem shares_eq (linkEnd : List String → String → LinkEnd) (place : List String)
    (entries : List (String × Entry)) :
    shares linkEnd place entries = entries.map fun (name, e) => e.share linkEnd place name := by
  induction entries with
  | nil => rfl
  | cons e rest ih => rw [shares, ih, List.map_cons]

namespace FileSystem

variable (fs : FileSystem)

/-- The candidates below a directory, no links followed. -/
def plainCandidates (place : List String) (entries : List (String × Entry)) : List Candidate :=
  gather (shares (fun _ _ => .nothing) place entries)

/-- The candidates below a directory, links followed as long as that is allowed. -/
def linkedCandidates (hops : Nat) (place : List String) (entries : List (String × Entry)) :
    List Candidate :=
  gather (shares (fun place name =>
    match fs.follow hops place [name] with
    | .ok ⟨place, .directory entries, left⟩ =>
      if left < hops then ⟨.nothing, linkedCandidates left place entries⟩ else .nothing
    | .ok ⟨_, .file _, _⟩ => ⟨.file, []⟩
    | .error .tooLong => ⟨.hidden, []⟩
    | _ => .nothing) place entries)
termination_by hops

def candidates (followLinks : Bool) (l : Located) : List Candidate :=
  match l.entry with
  | .directory entries =>
    if followLinks then fs.linkedCandidates l.hops l.place entries
    else plainCandidates l.place entries
  | _ => []

end FileSystem

/-- How a directory below a path is written while it is searched: a dot stays in front. -/
def searchedText (top : Path) (names : List String) : String :=
  if top = ⟨"", []⟩ then "/".intercalate ("." :: names) else (top.below names).text

/-- What shows of a candidate below a path. -/
def Candidate.seen (top : Path) (c : Candidate) : Sight :=
  if FileSystem.maxPathSize < (searchedText top c.names.dropLast).utf8ByteSize then .nothing
  else if FileSystem.maxPathSize < (top.below c.names).text.utf8ByteSize then .hidden
  else c.sight

/-- What a search comes upon: a file, or something that the log is told. -/
inductive Finding where
  | file (p : Path)
  | note (r : LogRecord)

namespace Finding

def file? : Finding → Option Path
  | file p => some p
  | note _ => none

def note? : Finding → Option LogRecord
  | file _ => none
  | note r => some r

end Finding

/-- What a search has come upon so far, and what stopped it. -/
structure Discovery where
  findings : List Finding
  failure : Option Error

namespace Discovery

def files (d : Discovery) : List Path :=
  d.findings.filterMap Finding.file?

def log (d : Discovery) : List LogRecord :=
  d.findings.filterMap Finding.note?

def empty : Discovery := ⟨[], none⟩

def found (p : Path) : Discovery := ⟨[.file p], none⟩

def failed (e : Error) : Discovery := ⟨[], some e⟩

/-- Goes on with another search unless this one was stopped. -/
protected def append (d e : Discovery) : Discovery :=
  match d.failure with
  | none => ⟨d.findings ++ e.findings, e.failure⟩
  | some _ => d

instance : Append Discovery := ⟨Discovery.append⟩

/-- One search after the other. -/
def all (ds : List Discovery) : Discovery :=
  ds.foldr (· ++ ·) empty

/-- A source file below a directory that is searched. -/
def source (patterns : List Value) (top : Path) (names : List String) : Discovery :=
  match excludes (Path.joined names) patterns with
  | .error e => failed e
  | .ok true => ⟨[.note (.debug ("Excluded " ++ (top.below names).text))], none⟩
  | .ok false => found (top.below names)

def candidate (patterns : List Value) (top : Path) (c : Candidate) : Discovery :=
  match c.seen top with
  | .file => source patterns top c.names
  | .nothing => empty
  | .hidden => failed (.mishap .pathTooLong)

end Discovery

namespace FileSystem

variable (fs : FileSystem)

/-- Searches one path. -/
def discoverPath (patterns : List Value) (followLinks : Bool) (p : Path) : Discovery :=
  match fs.resolve p with
  | .ok l =>
    match l.entry with
    | .directory _ => .all ((fs.candidates followLinks l).map (Discovery.candidate patterns p))
    | _ => .found p
  | .error .tooLong => .failed (.mishap .pathTooLong)
  | .error _ => .failed (.missingPath p.text)

def discover (patterns : Value) (followLinks : Bool) (paths : List Path) : Discovery :=
  match patternsOf patterns with
  | .error e => .failed e
  | .ok patterns => .all (paths.map (fs.discoverPath patterns followLinks))

end FileSystem

end JavaCensus
