import NestedQuery.Json.Decode

/-!
# Severities

From the detail of single calls up to conditions the process does not survive.
Configuration names them in lower case, log lines in upper case.
-/

namespace NestedQuery

inductive Severity
  /-- Detail of single calls. -/
  | trace
  /-- Normal operation. -/
  | info
  /-- Refused requests. -/
  | warn
  /-- Failed operations. -/
  | error
  /-- The process ends. -/
  | fatal
  deriving DecidableEq

namespace Severity

def rank : Severity → Nat
  | .trace => 0
  | .info => 1
  | .warn => 2
  | .error => 3
  | .fatal => 4

instance : LE Severity := ⟨fun left right => left.rank ≤ right.rank⟩

instance (left right : Severity) : Decidable (left ≤ right) :=
  inferInstanceAs (Decidable (left.rank ≤ right.rank))

/-- The name in log lines. -/
def name : Severity → String
  | .trace => "TRACE"
  | .info => "INFO"
  | .warn => "WARN"
  | .error => "ERROR"
  | .fatal => "FATAL"

/-- The name in configuration files. -/
def configName : Severity → String
  | .trace => "trace"
  | .info => "info"
  | .warn => "warn"
  | .error => "error"
  | .fatal => "fatal"

def ofConfigName? (name : String) : Option Severity :=
  [Severity.trace, .info, .warn, .error, .fatal].find? (·.configName == name)

def decode : Json.Source → Json.Decoded Severity :=
  Json.Source.decodeName ofConfigName?

end Severity

end NestedQuery
