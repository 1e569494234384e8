import JavaCensus.Settings.Variable

/-!
# Command lines

What the arguments of the program ask for. Options may stand among the paths until two dashes end
them; of an option that is given more than once the last one counts.
-/
namespace JavaCensus

inductive Switch where
  | preview
  | noPreview
  | verbose
  | quiet
  | help
  deriving DecidableEq, Repr

/-- The options that take a value. -/
inductive ValueOption where
  | format
  | output
  | languageLevel
  | config
  deriving DecidableEq, Repr

inductive CommandOption where
  | switch (s : Switch)
  | value (o : ValueOption)
  deriving DecidableEq, Repr

/-- The options of a command, by their long names and by their letters. -/
structure OptionTable where
  long : List (String × CommandOption)
  short : List (Char × CommandOption)

namespace OptionTable

def ofCollect : OptionTable :=
  ⟨[("--format", .value .format), ("--output", .value .output),
      ("--language-level", .value .languageLevel), ("--preview", .switch .preview),
      ("--no-preview", .switch .noPreview), ("--config", .value .config),
      ("--verbose", .switch .verbose), ("--quiet", .switch .quiet), ("--help", .switch .help)],
    [('f', .value .format), ('o', .value .output), ('l', .value .languageLevel),
      ('c', .value .config), ('v', .switch .verbose), ('q', .switch .quiet)]⟩

/-- The program itself and its lesser commands only offer help. -/
def ofHelp : OptionTable :=
  ⟨[("--help", .switch .help)], []⟩

def long? (t : OptionTable) (name : List Char) : Option CommandOption :=
  (t.long.find? (·.1.toList == name)).map (·.2)

def short? (t : OptionTable) (letter : Char) : Option CommandOption :=
  (t.short.find? (·.1 == letter)).map (·.2)

end OptionTable

/-- What an argument is read as. -/
inductive Item where
  | operand (s : String)
  | switch (s : Switch)
  | value (o : ValueOption) (given : String)
  deriving DecidableEq, Repr

/-- The items of an argument, and an option that takes the next argument for its value. -/
abbrev ArgumentReading := List Item × Option ValueOption

/-- Whether an argument is written as an option. -/
def isOption : List Char → Bool
  | '-' :: _ :: _ => true
  | _ => false

/-- Reads letters that stand together; what follows a letter that takes a value is that value. -/
def readLetters? (t : OptionTable) : List Char → Option ArgumentReading
  | [] => some ([], none)
  | c :: cs =>
    match t.short? c with
    | none => none
    | some (.switch s) => (readLetters? t cs).map fun (items, rest) => (.switch s :: items, rest)
    | some (.value o) =>
      if cs.isEmpty then some ([], some o) else some ([.value o (.ofList cs)], none)

/-- Reads an option, with a value after an equals sign if there is one. -/
def readOption? (t : OptionTable) (arg : List Char) : Option ArgumentReading :=
  let name := arg.takeWhile (· != '=')
  let given : Option (List Char) := ((arg.dropWhile (· != '=')).head?).map fun _ =>
    (arg.dropWhile (· != '=')).drop 1
  match t.long? name, given with
  | some (.value o), some v => some ([.value o (.ofList v)], none)
  | some (.value o), none => some ([], some o)
  | some (.switch s), none => some ([.switch s], none)
  | some (.switch _), some _ => none
  | none, _ => if ['-', '-'].isPrefixOf arg then none else readLetters? t (arg.drop 1)

/-- Reads all arguments; nothing if an option is unknown, lacks its value or has one too many. -/
def readItems? (t : OptionTable) : List String → Option (List Item)
  | [] => some []
  | arg :: rest =>
    if arg = "--" then some (rest.map .operand)
    else if isOption arg.toList then
      match readOption? t arg.toList with
      | none => none
      | some (items, none) => (readItems? t rest).map (items ++ ·)
      | some (items, some o) =>
        match rest with
        | [] => none
        | v :: rest => (readItems? t rest).map (items ++ .value o v :: ·)
    else (readItems? t rest).map (.operand arg :: ·)

namespace Item

def operands (items : List Item) : List String :=
  items.filterMap fun
    | operand s => some s
    | _ => none

/-- The value that an option was given last. -/
def lastValue? (o : ValueOption) (items : List Item) : Option String :=
  (items.filterMap fun
    | value p v => if p = o then some v else none
    | _ => none).getLast?

def has (s : Switch) (items : List Item) : Bool :=
  items.contains (switch s)

/-- Which of the two switches for previews was given last. -/
def lastPreview? (items : List Item) : Option Bool :=
  (items.filterMap fun
    | switch .preview => some true
    | switch .noPreview => some false
    | _ => none).getLast?

end Item

structure CollectRequest where
  paths : List String
  format : Option String
  output : Option String
  languageLevel : Option Int
  preview : Option Bool
  config : Option String
  verbose : Bool
  quiet : Bool
  deriving DecidableEq, Repr

inductive Request where
  | help
  | version
  | collect (r : CollectRequest)
  deriving DecidableEq, Repr

/-- The level of a command line, if one is given; nothing if what is given is no integer. -/
def readLevel? : Option String → Option (Option Int)
  | none => some none
  | some written => (readIntegerSetting written).toOption.map some

def CollectRequest.ofItems? (items : List Item) : Option CollectRequest :=
  let paths := Item.operands items
  match readLevel? (Item.lastValue? .languageLevel items) with
  | none => none
  | some languageLevel =>
    if paths.isEmpty then none
    else some {
      paths, languageLevel
      format := Item.lastValue? .format items
      output := Item.lastValue? .output items
      preview := Item.lastPreview? items
      config := Item.lastValue? .config items
      verbose := Item.has .verbose items
      quiet := Item.has .quiet items }

namespace Request

/-- Reads what follows the name of a command. Help wins over all else that can be read. -/
def ofCommand? (command : String) (rest : List String) : Option Request :=
  if command = "collect" then do
    let items ← readItems? .ofCollect rest
    if Item.has .help items then return help else return collect (← CollectRequest.ofItems? items)
  else if command = "version" then do
    let items ← readItems? .ofHelp rest
    if Item.has .help items then return help
    else if (Item.operands items).isEmpty then return version else none
  else none

/-- Reads a command line; nothing if it is misused. Options of the program itself end at the first
argument that is no option, and help wins over every command. -/
def ofArguments? (asked : Bool) : List String → Option Request
  | [] => if asked then some help else none
  | arg :: rest =>
    if arg = "--" then
      match asked, rest with
      | true, _ => some help
      | false, [] => none
      | false, command :: rest => ofCommand? command rest
    else if isOption arg.toList then
      match readOption? .ofHelp arg.toList with
      | some _ => ofArguments? true rest
      | none => none
    else if asked then some help
    else ofCommand? arg rest

end Request

end JavaCensus
