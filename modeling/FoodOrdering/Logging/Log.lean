import FoodOrdering.Files.Tree
import FoodOrdering.Logging.Level

/-!
# The log

A log is set up once, and writes to standard output or to the end of a file.  Each admitted record
is one entry of time, severity, text and target, and the first entry tells of the log itself.
Targets that say too much are never heard below the level of information.
-/

namespace FoodOrdering

structure LogRecord where
  severity : Severity
  /-- The part of the program that speaks. -/
  target : String
  text : String
  deriving DecidableEq, Repr

/-- Why a log cannot be set up. -/
inductive LogFault where
  | unopenable (file : String)
  | alreadySetUp
  deriving DecidableEq, Repr

structure Log where
  level : LogLevel
  /-- The severities are coloured; those in a file never are. -/
  colored : Bool
  /-- The file that is written to, or else standard output. -/
  file : Option String
  deriving DecidableEq, Repr

namespace Log

/-- Set up a log unless there is one already. -/
def setUp (current : Option Log) (level : LogLevel) (file : Option String) (colored : Bool)
    (files : FileTree) : Except LogFault Log :=
  match file.filter fun path => !files.canWrite path with
  | some path => .error (.unopenable path)
  | none =>
      match current with
      | some _ => .error .alreadySetUp
      | none => .ok { level, file, colored := colored && file.isNone }

/-- The targets that say too much. -/
def quietTargets : List String :=
  ["hyper", "hyper_util", "reqwest"]

/-- A target is another one or lies below it. -/
def isWithin (target other : String) : Bool :=
  target == other || (other.toList ++ [':', ':']).isPrefixOf target.toList

/-- The level that counts for a target. -/
def levelFor (log : Log) (target : String) : LogLevel :=
  if quietTargets.any (isWithin target) then log.level.cappedAt (.upTo .info) else log.level

def colorCode : Severity → String
  | .error => "31"
  | .warn => "33"
  | .info => "32"
  | .debug => "34"
  | .trace => "35"

def severityText (log : Log) (severity : Severity) : String :=
  if log.colored then
    "\x1b[" ++ colorCode severity ++ "m" ++ severity.name ++ "\x1b[0m"
  else severity.name

/-- What is written of a record at a time, if it is admitted. -/
def entry? (log : Log) (time : String) (record : LogRecord) : Option String :=
  if (log.levelFor record.target).admits record.severity then
    some ("[" ++ time ++ " - " ++ log.severityText record.severity ++ "] " ++ record.text ++
      " [" ++ record.target ++ "]")
  else none

/-- All that is written of records at a time. -/
def entries (log : Log) (time : String) (records : List LogRecord) : List String :=
  records.filterMap (log.entry? time)

/-- The record that tells of the log itself. -/
def greeting (log : Log) : LogRecord :=
  let place :=
    match log.file with
    | some file => "file=" ++ file
    | none => "stdout"
  { severity := .info, target := "bb_config::logger"
    text := "Logger initialized: level=" ++ log.level.name ++ ", " ++ place }

end Log

/-- What is said of the fault. -/
def LogFault.message? : LogFault → Option String
  | .unopenable _ => none
  | .alreadySetUp =>
      some ("Logging error: Failed to initialize logger: attempted to set a logger after the " ++
        "logging system was already initialized")

end FoodOrdering
