/-!
# Log entries

An entry has a level, the name of the part of the program that speaks, and a message.
-/

namespace BundleAudit

inductive LogLevel
  | debug
  | info
  | warning
  | error
deriving DecidableEq, Repr

namespace LogLevel

def name : LogLevel → String
  | .debug => "DEBUG"
  | .info => "INFO"
  | .warning => "WARNING"
  | .error => "ERROR"

def rank : LogLevel → Nat
  | .debug => 10
  | .info => 20
  | .warning => 30
  | .error => 40

end LogLevel

structure LogEntry where
  level : LogLevel
  speaker : String
  message : String
deriving DecidableEq, Repr

/-- An entry of the part that registers and runs rules. -/
def LogEntry.engine (level : LogLevel) (message : String) : LogEntry :=
  ⟨level, "bundleguard.scanner.engine", message⟩

end BundleAudit
