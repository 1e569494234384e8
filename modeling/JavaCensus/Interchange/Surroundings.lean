import JavaCensus.CommandLine.Run
import JavaCensus.Interchange.ParseTree
import JavaCensus.Json.Reader

/-!
# Surroundings as documents

An object tells the files that a run finds: in a home directory the global settings, in a working
directory all else. With a source file stands its parse tree, and the text that was parsed where
that is not the text of the file.
-/
namespace JavaCensus

/-- The bytes that pairs of hexadecimal digits stand for. -/
def hexBytes : List Char → List UInt8
  | a :: b :: cs =>
    UInt8.ofNat (16 * (Json.hexValue? a).getD 0 + (Json.hexValue? b).getD 0) :: hexBytes cs
  | _ => []

/-- The bytes that a text is encoded in, or that are given as they are. -/
def SourceText.ofJson (j : Json) : SourceText :=
  match j.text? "hex" with
  | some digits => ⟨hexBytes digits.toList⟩
  | none => .ofString (j.textOr "source" "")

/-- Where the home and the working directory lie: how the root is written, and the names that lead
to the directory that holds both. -/
structure Ground where
  rootText : String
  base : List String

namespace Ground

def home (g : Ground) : List String := g.base ++ ["home"]

def work (g : Ground) : List String := g.base ++ ["work"]

end Ground

namespace FileSystem

/-- Puts an entry below a directory. -/
def placed (t : Entry) (base : List String) (path : String) (e : Entry) : Entry :=
  t.put (base ++ (Path.ofString path).parts) e

/-- Puts the text of a member, if there is one, into a file. -/
def placedText (j : Json) (t : Entry) (key : String) (base : List String) (path : String) : Entry :=
  match j.text? key with
  | some text => placed t base path (.file (SourceText.ofString text).bytes)
  | none => t

def rootOfJson (g : Ground) (j : Json) : Entry :=
  let t := ((Entry.directory []).put g.home (.directory [])).put g.work (.directory [])
  let t := (j.listOf "dirs").foldl (fun t d => placed t g.work d.toText (.directory [])) t
  let t := (j.listOf "files").foldl (fun t f =>
    placed t g.work (f.textOr "path" "") (.file (SourceText.ofJson f).bytes)) t
  let t := (j.listOf "symlinks").foldl (fun t l =>
    placed t g.work (l.element 0).toText (.link (l.element 1).toText)) t
  let t := placedText j t "global" g.home ".javameter.toml"
  let t := placedText j t "project" g.work "javameter.toml"
  placedText j t "explicit" g.work "explicit.toml"

def ofJson (g : Ground) (j : Json) : FileSystem :=
  ⟨g.rootText, rootOfJson g j, g.work⟩

end FileSystem

/-- The text that the tree of a file belongs to. -/
def parsedText (file : Json) : SourceText :=
  match file.text? "parsed" with
  | some text => .ofString text
  | none => .ofJson file

/-- Parses a text as the file does that holds it; a text of no file parses to nothing. -/
def Grammar.ofJson (j : Json) : Grammar := fun source =>
  let file? := (j.listOf "files").find? fun f =>
    (f.present? "tree").isSome && (parsedText f).bytes == source.bytes
  .ofJson (file?.getD .null)

/-- The environment variables and their texts. -/
def variablesOfJson (j : Json) : List (String × String) :=
  (j.member "env").members.map fun (name, text) => (name, text.toText)

def Moment.ofJson? (j : Json) : Option Moment :=
  match j with
  | .array _ =>
    let n (i : Nat) : Nat := (j.element i).toNat
    some ⟨⟨n 0, n 1, n 2⟩, ⟨n 3, n 4, n 5, n 6⟩⟩
  | _ => none

def Surroundings.ofJson (g : Ground) (now : Moment) (j : Json) : Surroundings :=
  { files := .ofJson g j
    home := ⟨g.rootText, g.home⟩
    environment := variablesOfJson j
    now
    grammar := .ofJson j }

end JavaCensus
