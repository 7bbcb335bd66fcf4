/-!
# Log records

What the library reports about a run beside its result.  Records are values in the trace of a run;
nothing here writes them anywhere.
-/

namespace TxRetry

/-- The severity of a log record. -/
inductive LogLevel where
  | error
  | warn
  | info
  | debug
  | trace
  deriving DecidableEq, Repr, Inhabited

namespace LogLevel

/-- The levels, most severe first. -/
def all : List LogLevel := [.error, .warn, .info, .debug, .trace]

def name : LogLevel → String
  | .error => "ERROR"
  | .warn => "WARN"
  | .info => "INFO"
  | .debug => "DEBUG"
  | .trace => "TRACE"

/-- The level with a name, in any letter case. -/
def ofName? (s : String) : Option LogLevel :=
  all.find? fun level => level.name.toList.map Char.toLower == s.toList.map Char.toLower

end LogLevel

/-- A log record. -/
structure LogRecord where
  level : LogLevel
  message : String
  deriving DecidableEq, Repr

end TxRetry
