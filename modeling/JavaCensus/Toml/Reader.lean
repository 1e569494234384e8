import JavaCensus.Toml.Nest
import JavaCensus.Toml.Scalar

/-!
# Reading TOML

A document is a sequence of statements: table headers, headers of arrays of tables and entries.
Some keys are closed to later statements: a table has one header only, and values written in one
piece cannot be extended.
-/
namespace JavaCensus.Toml

/-! ## Keys and values -/

def isBareKeyChar (c : Char) : Bool :=
  (c.toNat < 128 && c.isAlphanum) || c == '-' || c == '_'

def readKeyPart? (cs : List Char) : Option (String × Rest) :=
  match cs with
  | '"' :: rest => (readBasic? (rest.length + 1) rest).map fun (s, left) => (.ofList s, left)
  | '\'' :: rest => (readLiteral? rest).map fun (s, left) => (.ofList s, left)
  | _ =>
    let part := cs.takeWhile isBareKeyChar
    if part.isEmpty then none else some (.ofList part, cs.dropWhile isBareKeyChar)

/-- Reads a key of one or more parts, and the blanks behind it. -/
def readKey? : Nat → List Char → Option (Key × Rest)
  | 0, _ => none
  | fuel + 1, cs => do
    let (part, rest) ← readKeyPart? cs
    match skipSpace rest with
    | '.' :: more =>
      let (parts, left) ← readKey? fuel (skipSpace more)
      return (part :: parts, left)
    | rest => return ([part], rest)

/-- Skips a comment up to the end of its line; a control character in it is refused. -/
def skipComment? (cs : List Char) : Option Rest :=
  match cs with
  | '#' :: rest =>
    if (rest.takeWhile (· != '\n')).any isControl then none
    else some (rest.dropWhile (· != '\n'))
  | _ => some cs

/-- Skips blanks, line breaks and comments. -/
def skipFiller? : Nat → List Char → Option Rest
  | 0, _ => none
  | fuel + 1, cs =>
    match cs.dropWhile isSpaceOrBreak with
    | '#' :: rest => (skipComment? ('#' :: rest)).bind (skipFiller? fuel)
    | rest => some rest

def skipFiller (cs : List Char) : Option Rest :=
  skipFiller? (cs.length + 1) cs

/-- Whether one key begins with another. -/
def startsWith (key start : Key) : Bool :=
  start.isPrefixOf key

def isContainer : Value → Bool
  | .array _ | .table _ => true
  | _ => false

/-- A table written in one piece, and the keys in it that are closed. -/
structure Inline where
  entries : Entries
  closed : List Key

/-- Adds an entry to an inline table. -/
def Inline.add? (t : Inline) (key : Key) (v : Value) : Option Inline :=
  if t.closed.any (startsWith key) then none
  else do
    let (parents, stem) := splitKey key
    let entries ← atKey? false (insertNew? stem v) parents t.entries
    return ⟨entries, if isContainer v then key :: t.closed else t.closed⟩

mutual

/-- Reads a value; the fuel bounds the number of steps. -/
def readValue? : Nat → List Char → Option (Value × Rest)
  | 0, _ => none
  | fuel + 1, cs =>
    match cs with
    | '"' :: _ | '\'' :: _ => (readString? cs).map fun (s, left) => (.string (.ofList s), left)
    | '[' :: rest => do
      match ← skipFiller rest with
      | ']' :: left => return (.array [], left)
      | rest =>
        let (elements, left) ← readElements? fuel rest
        return (.array elements, left)
    | '\x7b' :: rest =>
      match skipSpace rest with
      | '\x7d' :: left => some (.table [], left)
      | rest => (readInline? fuel ⟨[], []⟩ rest).map fun (t, left) => (.table t.entries, left)
    | _ => readBare? cs

/-- Reads the elements of an array, of which there is at least one, and its end. -/
def readElements? : Nat → List Char → Option (List Value × Rest)
  | 0, _ => none
  | fuel + 1, cs => do
    let (v, rest) ← readValue? fuel cs
    match ← skipFiller rest with
    | ']' :: left => return ([v], left)
    | ',' :: rest =>
      match ← skipFiller rest with
      | ']' :: left => return ([v], left)
      | rest =>
        let (vs, left) ← readElements? fuel rest
        return (v :: vs, left)
    | _ => none

/-- Reads the entries of an inline table, of which there is at least one, and its end. -/
def readInline? : Nat → Inline → List Char → Option (Inline × Rest)
  | 0, _, _ => none
  | fuel + 1, t, cs => do
    let (key, v, rest) ← readPair? fuel cs
    let t ← t.add? key v
    match skipSpace rest with
    | '\x7d' :: left => return (t, left)
    | ',' :: rest => readInline? fuel t (skipSpace rest)
    | _ => none

/-- Reads a key, the sign between and a value. -/
def readPair? : Nat → List Char → Option (Key × Value × Rest)
  | 0, _ => none
  | fuel + 1, cs => do
    let (key, rest) ← readKey? (cs.length + 1) cs
    match rest with
    | '=' :: rest =>
      let (v, left) ← readValue? fuel (skipSpace rest)
      return (key, v, left)
    | _ => none

end

/-! ## Statements -/

inductive Statement where
  | header (key : Key)
  | arrayHeader (key : Key)
  | entry (key : Key) (v : Value)

def readHeader? (cs : List Char) : Option (Statement × Rest) := do
  let (key, rest) ← readKey? (cs.length + 1) (skipSpace cs)
  return (.header key, ← after? [']'] rest)

def readArrayHeader? (cs : List Char) : Option (Statement × Rest) := do
  let (key, rest) ← readKey? (cs.length + 1) (skipSpace cs)
  return (.arrayHeader key, ← after? [']', ']'] rest)

def readStatement? (cs : List Char) : Option (Statement × Rest) :=
  match cs with
  | '[' :: '[' :: rest => readArrayHeader? rest
  | '[' :: rest => readHeader? rest
  | _ => (readPair? (2 * cs.length + 2) cs).map fun (key, v, left) => (.entry key v, left)

/-- Reads the end of a line, behind an optional comment. -/
def readLineEnd? (cs : List Char) : Option Rest := do
  match ← skipComment? (skipSpace cs) with
  | [] => some []
  | '\n' :: rest => some rest
  | _ => none

/-- Reads lines with at most one statement each. -/
def readLines? : Nat → List Char → Option (List Statement)
  | 0, _ => none
  | fuel + 1, cs =>
    match skipSpace cs with
    | [] => some []
    | '\n' :: rest => readLines? fuel rest
    | '#' :: rest => (readLineEnd? ('#' :: rest)).bind (readLines? fuel)
    | rest => do
      let (statement, left) ← readStatement? rest
      let statements ← readLines? fuel (← readLineEnd? left)
      return statement :: statements

/-- The document so far: its table, the header in force, the keys of tables that have their
header, those that get none any more from the next header on, and those of closed values. -/
structure Document where
  entries : Entries
  header : Key
  headed : List Key
  pending : List Key
  closed : List Key

namespace Document

def empty : Document := ⟨[], [], [], [], []⟩

def isClosed (d : Document) (key : Key) : Bool :=
  d.closed.any (startsWith key)

/-- The tables that the parts of a dotted key lead through. -/
def passed (header key : Key) : List Key :=
  (List.range (key.length - 1)).map fun i => header ++ key.take (i + 1)

/-- Opens a table. -/
def open? (d : Document) (key : Key) : Option Document :=
  let headed := d.pending ++ d.headed
  if headed.contains key || d.isClosed key then none
  else (atKey? true some key d.entries).map fun entries =>
    { d with entries := entries, header := key, headed := key :: headed, pending := [] }

/-- Opens another table of an array of tables; what held below the one before holds no more. -/
def openNext? (d : Document) (key : Key) : Option Document :=
  let headed := d.pending ++ d.headed
  if d.isClosed key then none
  else
    let (parents, stem) := splitKey key
    (atKey? true (appendTable? stem) parents d.entries).map fun entries =>
      ⟨entries, key, key :: headed.filter (!startsWith · key), [],
        d.closed.filter (!startsWith · key)⟩

/-- Enters a value under the header in force. -/
def add? (d : Document) (key : Key) (v : Value) : Option Document :=
  let through := passed d.header key
  let (parents, stem) := splitKey key
  if through.any d.headed.contains || d.isClosed (d.header ++ parents) then none
  else (atKey? true (insertNew? stem v) (d.header ++ parents) d.entries).map fun entries =>
    { d with
      entries := entries
      pending := through ++ d.pending
      closed := if isContainer v then (d.header ++ key) :: d.closed else d.closed }

def step? (d : Document) : Statement → Option Document
  | .header key => d.open? key
  | .arrayHeader key => d.openNext? key
  | .entry key v => d.add? key v

end Document

/-- A carriage return and a line feed count as one line break. -/
def joinBreaks : List Char → List Char
  | '\r' :: '\n' :: cs => '\n' :: joinBreaks cs
  | c :: cs => c :: joinBreaks cs
  | [] => []

/-- Reads a document. -/
def read? (text : String) : Option Entries := do
  let cs := joinBreaks text.toList
  let statements ← readLines? (cs.length + 1) cs
  let d ← statements.foldlM Document.step? .empty
  return d.entries

end JavaCensus.Toml
