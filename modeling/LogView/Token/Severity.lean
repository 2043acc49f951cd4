/-!
# Severities

A log line may name its severity.  The words count only in capital letters.
-/

namespace LogView

/-- How severe an entry is, from least to most. -/
inductive Severity where
  | trace
  | debug
  | info
  | warn
  | warning
  | error
  | fatal
  deriving Repr, DecidableEq, Inhabited

namespace Severity

def all : List Severity := [.trace, .debug, .info, .warn, .warning, .error, .fatal]

def word : Severity → String
  | .trace => "TRACE"
  | .debug => "DEBUG"
  | .info => "INFO"
  | .warn => "WARN"
  | .warning => "WARNING"
  | .error => "ERROR"
  | .fatal => "FATAL"

def className : Severity → String
  | .trace => "trace"
  | .debug => "debug"
  | .info => "info"
  | .warn => "warn"
  | .warning => "warning"
  | .error => "error"
  | .fatal => "fatal"

def ofWord? (word : String) : Option Severity :=
  all.find? fun severity => severity.word = word

end Severity

end LogView
