import JavaCensus.Syntax.LanguageLevel

/-!
# Errors

What can go wrong is told by its cause. A report is how a foreseen error reads: a message and
details. A mishap is an error that no rule of the program foresees; it has no report.
-/
namespace JavaCensus

/-- The kinds of foreseen errors, from the most general to the particular ones. -/
inductive ErrorFamily where
  | any
  | analysis
  | fileAccess
  | parsing
  | languageLevel
  | collection
  | unclassified
  | configuration
  | invalidPath
  | invalidSetting
  deriving DecidableEq, Repr

namespace ErrorFamily

/-- The next more general kind. -/
def parent : ErrorFamily → Option ErrorFamily
  | .any => none
  | .analysis | .collection | .configuration => some .any
  | .fileAccess | .parsing | .languageLevel => some .analysis
  | .unclassified => some .collection
  | .invalidPath | .invalidSetting => some .configuration

/-- The kind itself and the more general ones. -/
def lineage : ErrorFamily → List ErrorFamily
  | .any => [.any]
  | .analysis => [.analysis, .any]
  | .fileAccess => [.fileAccess, .analysis, .any]
  | .parsing => [.parsing, .analysis, .any]
  | .languageLevel => [.languageLevel, .analysis, .any]
  | .collection => [.collection, .any]
  | .unclassified => [.unclassified, .collection, .any]
  | .configuration => [.configuration, .any]
  | .invalidPath => [.invalidPath, .configuration, .any]
  | .invalidSetting => [.invalidSetting, .configuration, .any]

theorem lineage_eq (f : ErrorFamily) :
    f.lineage = f :: (f.parent.map lineage).getD [] := by
  cases f <;> rfl

end ErrorFamily

structure ErrorReport where
  family : ErrorFamily
  message : String
  details : List (String × String)
  deriving DecidableEq, Repr

namespace ErrorReport

/-- The message, followed by the details in brackets if there are any. -/
def text (r : ErrorReport) : String :=
  if r.details.isEmpty then r.message
  else r.message ++ " (" ++ ", ".intercalate (r.details.map fun (k, v) => k ++ "=" ++ v) ++ ")"

def fileAccess (path reason : String) : ErrorReport :=
  ⟨.fileAccess, "Cannot access file: " ++ path, [("filepath", path), ("reason", reason)]⟩

def parsing (unit reason : String) (line : Option Int) : ErrorReport :=
  ⟨.parsing, "Failed to parse Java compilation unit: " ++ unit,
    [("unit", unit), ("reason", reason)] ++ (line.map fun n => ("line", toString n)).toList⟩

def languageLevel (level : String) (supported : List Nat) : ErrorReport :=
  ⟨.languageLevel, "Unsupported Java language level: " ++ level,
    [("level", level), ("supported", ", ".intercalate (supported.map toString))]⟩

def unclassified (label context : String) : ErrorReport :=
  ⟨.unclassified, "Cannot classify " ++ label ++ " as " ++ context,
    [("node", label), ("context", context)]⟩

def invalidPath (path reason : String) : ErrorReport :=
  ⟨.invalidPath, "Invalid path: " ++ path, [("path", path), ("reason", reason)]⟩

def invalidSetting (key value reason : String) : ErrorReport :=
  ⟨.invalidSetting, "Invalid configuration for " ++ key ++ ": " ++ value,
    [("key", key), ("value", value), ("reason", reason)]⟩

end ErrorReport

/-- Why a source unit is refused. -/
inductive Rejection where
  | missing (type : String)
  | malformedAt (snippet : String)
  | malformed
  | outsideType (type : String)
  | sharedModule
  | unsupported (feature : Feature) (level : LanguageLevel) (preview : Bool)
  | unknownDirective (keyword : String)
  | unexpectedType (type : String)
  | outsideEnum (type : String)
  | unexpectedMember (type : String)
  | unsupportedStatement (type : String)
  | empty (type : String)
  | without (type field : String)
  deriving DecidableEq, Repr

def Rejection.reason : Rejection → String
  | .missing type => "missing " ++ type
  | .malformedAt snippet => "syntax error at '" ++ snippet ++ "'"
  | .malformed => "syntax error"
  | .outsideType type => "unexpected " ++ type ++ " outside of a type declaration"
  | .sharedModule => "a module declaration cannot share its unit with types or a package"
  | .unsupported feature level preview =>
    feature.description ++ " are not supported in " ++ level.title ++
      (if preview then " with preview features enabled" else "")
  | .unknownDirective keyword => "unknown module directive '" ++ keyword ++ "'"
  | .unexpectedType type => "unexpected type declaration " ++ type
  | .outsideEnum type => "unexpected " ++ type ++ " outside of an enum body"
  | .unexpectedMember type => "unexpected member " ++ type
  | .unsupportedStatement type => "unsupported statement " ++ type
  | .empty type => "empty " ++ type
  | .without type field => type ++ " without " ++ field

/-- What a construct was to be taken for. -/
inductive Context where
  | type
  | method
  | field
  | statement
  | codeElement
  | typeMember
  | ordinaryUnit
  | modularUnit
  | metricsNode
  deriving DecidableEq, Repr

def Context.text : Context → String
  | .type => "type"
  | .method => "method"
  | .field => "field"
  | .statement => "statement"
  | .codeElement => "code element"
  | .typeMember => "type member"
  | .ordinaryUnit => "ordinary compilation unit"
  | .modularUnit => "modular compilation unit"
  | .metricsNode => "metrics node"

/-- The elements that must have a name. -/
inductive Named where
  | field
  | method
  | type
  | compilationUnit
  | module
  | modularUnit
  | package
  deriving DecidableEq, Repr

def Named.text : Named → String
  | .field => "FieldMetrics"
  | .method => "MethodMetrics"
  | .type => "TypeMetrics"
  | .compilationUnit => "CompilationUnitMetrics"
  | .module => "ModuleDeclarationMetrics"
  | .modularUnit => "ModularCompilationUnitMetrics"
  | .package => "PackageMetrics"

/-- Errors that are not foreseen: bad values, and trees or settings of an impossible shape. -/
inductive Mishap where
  | unnamed (element : Named)
  | decreasingCount
  | unknownFormat (quoted : String)
  | notBoolean (written : String)
  | notInteger (quoted : String)
  | tooManyDigits (digits : Nat)
  | tooLongToWrite
  | notReal (quoted : String)
  | embeddedNul
  | nulInPath
  | nanToInteger
  | infiniteToInteger
  | absentPart
  | absentMatch
  | absentPlace
  | wrongKind
  | undecodable
  | unencodable
  | homeless
  | pathTooLong
  deriving DecidableEq, Repr

/-- The text of a mishap about a value. -/
def Mishap.message : Mishap → Option String
  | .unnamed element => some (element.text ++ " requires a name")
  | .decreasingCount => some "statement count cannot decrease"
  | .unknownFormat quoted =>
    some ("Unknown formatter: " ++ quoted ++ ". Choose from: json, text, xml")
  | .notBoolean written => some ("expected true/false, got '" ++ written ++ "'")
  | .notInteger quoted => some ("invalid literal for int() with base 10: " ++ quoted)
  | .tooManyDigits digits =>
    some ("Exceeds the limit (4300 digits) for integer string conversion: value has " ++
      toString digits ++ " digits; use sys.set_int_max_str_digits() to increase the limit")
  | .tooLongToWrite =>
    some ("Exceeds the limit (4300 digits) for integer string conversion; " ++
      "use sys.set_int_max_str_digits() to increase the limit")
  | .notReal quoted => some ("could not convert string to float: " ++ quoted)
  | .embeddedNul => some "embedded null character"
  | .nulInPath => some "embedded null byte"
  | .nanToInteger => some "cannot convert float NaN to integer"
  | .infiniteToInteger | .absentPart | .absentMatch | .absentPlace | .wrongKind | .undecodable
  | .unencodable | .homeless | .pathTooLong => none

/-- Why a file is not read. What the system or the decoder found is left out of the text. -/
inductive ReadFailure where
  | system
  | tooLarge (size limit : Int)
  | encoding
  deriving DecidableEq, Repr

def ReadFailure.reason : ReadFailure → String
  | .system => "OS error: ..."
  | .tooLarge size limit =>
    "File too large: " ++ toString size ++ " bytes (limit " ++ toString limit ++ ")"
  | .encoding => "Encoding error: ..."

/-- What is wrong with the settings as a whole. -/
inductive ConfigFailure where
  | missingFile (path : String)
  | malformedFile (description path : String)
  | notATable (description path : String)
  | badVariable (variableName : String) (cause : Mishap)
  | wrongKind
  | unknownSetting (key : String)
  deriving DecidableEq, Repr

def ConfigFailure.message : ConfigFailure → String
  | .missingFile path => "Config file not found: " ++ path
  | .malformedFile description path => "Invalid " ++ description ++ " '" ++ path ++ "': ..."
  | .notATable description path =>
    "Invalid " ++ description ++ " '" ++ path ++ "': [javameter] must be a table"
  | .badVariable variableName cause =>
    "Invalid " ++ variableName ++ ": " ++ cause.message.getD ""
  | .wrongKind => "Invalid configuration: ..."
  | .unknownSetting key =>
    "Invalid configuration: CollectorConfig.__init__() got an unexpected keyword argument '" ++
      key ++ "'"

inductive Error where
  | unreadable (path : String) (failure : ReadFailure)
  | rejected (unit : String) (cause : Rejection) (line : Option Nat)
  | unsupportedLevel (level : String)
  | emptyUnitName
  | unclassified (label : String) (context : Context)
  | config (failure : ConfigFailure)
  | missingPath (path : String)
  | invalidSetting (key value reason : String)
  | mishap (cause : Mishap)
  deriving DecidableEq, Repr

namespace Error

/-- How a foreseen error reads. -/
def report? : Error → Option ErrorReport
  | .unreadable path failure => some (.fileAccess path failure.reason)
  | .rejected unit cause line => some (.parsing unit cause.reason (line.map Int.ofNat))
  | .unsupportedLevel level => some (.languageLevel level LanguageLevel.releases)
  | .emptyUnitName => some ⟨.collection, "Compilation unit name must not be empty", []⟩
  | .unclassified label context => some (.unclassified label context.text)
  | .config failure => some ⟨.configuration, failure.message, []⟩
  | .missingPath path => some (.invalidPath path "does not exist")
  | .invalidSetting key value reason => some (.invalidSetting key value reason)
  | .mishap _ => none

theorem report?_eq_none_iff {e : Error} : e.report? = none ↔ ∃ m, e = .mishap m := by
  cases e <;> simp [report?]

end Error

end JavaCensus
