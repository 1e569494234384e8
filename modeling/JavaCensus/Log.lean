/-!
# Log records
-/
namespace JavaCensus

inductive LogLevel where
  | debug
  | info
  | warning
  | error
  | critical
  deriving DecidableEq, Repr

namespace LogLevel

def title : LogLevel → String
  | .debug => "DEBUG"
  | .info => "INFO"
  | .warning => "WARNING"
  | .error => "ERROR"
  | .critical => "CRITICAL"

def severity : LogLevel → Nat
  | .debug => 10
  | .info => 20
  | .warning => 30
  | .error => 40
  | .critical => 50

/-- The least severe level that is shown; quiet wins over verbose. -/
def threshold (verbose quiet : Bool) : LogLevel :=
  if quiet then .error else if verbose then .debug else .warning

/-- Whether a message of this level is shown under a threshold. -/
def shownUnder (level bound : LogLevel) : Bool :=
  bound.severity ≤ level.severity

end LogLevel

structure LogRecord where
  level : LogLevel
  text : String
  deriving DecidableEq, Repr

def LogRecord.debug (text : String) : LogRecord := ⟨.debug, text⟩

def LogRecord.line (r : LogRecord) : String :=
  r.level.title ++ " " ++ r.text

/-- The full name of a logger: all names lie below that of the program. -/
def loggerName : Option String → String
  | none => "javameter"
  | some name => if name.startsWith "javameter" then name else "javameter." ++ name

/-- A line of a log file, after the time. -/
def LogRecord.fileLine (r : LogRecord) (logger : String) : String :=
  logger ++ " - " ++ r.level.title ++ " - " ++ r.text

end JavaCensus
