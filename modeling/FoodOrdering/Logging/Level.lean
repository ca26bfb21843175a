import FoodOrdering.Text.Lowercase

/-!
# Log levels

A record has a severity, and a level admits the severities up to its own.  Every text names a
level: the six names in any letter case, and everything else stands for the usual one.
-/

namespace FoodOrdering

/-- How grave a record is, from the gravest on. -/
inductive Severity where
  | error
  | warn
  | info
  | debug
  | trace
  deriving DecidableEq, Repr

namespace Severity

def all : List Severity :=
  [.error, .warn, .info, .debug, .trace]

def name : Severity → String
  | .error => "ERROR"
  | .warn => "WARN"
  | .info => "INFO"
  | .debug => "DEBUG"
  | .trace => "TRACE"

/-- One for the gravest severity. -/
def rank : Severity → Nat
  | .error => 1
  | .warn => 2
  | .info => 3
  | .debug => 4
  | .trace => 5

end Severity

inductive LogLevel where
  | off
  | upTo (severity : Severity)
  deriving DecidableEq, Repr

namespace LogLevel

def name : LogLevel → String
  | .off => "OFF"
  | .upTo severity => severity.name

/-- How many severities are admitted. -/
def rank : LogLevel → Nat
  | .off => 0
  | .upTo severity => severity.rank

/-- A record of this severity is written. -/
def admits (level : LogLevel) (severity : Severity) : Bool :=
  severity.rank ≤ level.rank

/-- The level, or another one that admits less. -/
def cappedAt (cap level : LogLevel) : LogLevel :=
  if level.rank ≤ cap.rank then level else cap

/-- The level that a text names, and the level of information where it names none. -/
def lenient (text : String) : LogLevel :=
  let name := Text.lowercase text
  if name = "off" then .off
  else if name = "error" then .upTo .error
  else if name = "warn" then .upTo .warn
  else if name = "debug" then .upTo .debug
  else if name = "trace" then .upTo .trace
  else .upTo .info

end LogLevel

end FoodOrdering
