import FoodOrdering.Files.Tree
import FoodOrdering.Settings.Document
import FoodOrdering.Settings.Environment
import FoodOrdering.Toml.Document

/-!
# Loading settings

Settings lie in a document in the configuration directory, which is made if it is not there.  The
environment has the last word.  Nothing is judged on the way.
-/

namespace FoodOrdering

/-- Why settings cannot be loaded. -/
inductive LoadFault where
  /-- A file or a directory refuses. -/
  | files (path : String)
  /-- The document is none of settings. -/
  | document (path : String)
  deriving DecidableEq, Repr

namespace Settings

/-- The configuration directory: the one that the environment names, or else a hidden one in the
working directory. -/
def directory (environment : Environment) (workingDirectory : String) : String :=
  (environment.text? "BB_CONFIG_DIR").getD (Path.join workingDirectory ".bb")

/-- The settings that the bytes of a document state. -/
def ofBytes (path : String) (bytes : List UInt8) : Except LoadFault Settings :=
  match Text.ofUtf8? bytes with
  | none => .error (.files path)
  | some text =>
      match (Toml.parse text).bind ofEntries? with
      | none => .error (.document path)
      | some settings => .ok settings

/-- The settings of a document, or the usual ones where there is none. -/
def ofFile (files : FileTree) (path : String) : Except LoadFault Settings :=
  if files.isPresent path then
    match files.content? path with
    | none => .error (.files path)
    | some bytes => ofBytes path bytes
  else .ok {}

def load (files : FileTree) (environment : Environment) (workingDirectory : String) :
    Except LoadFault Settings :=
  let place := directory environment workingDirectory
  if !files.isPresent place && !files.hasRoom place then .error (.files place)
  else (ofFile files (Path.join place "config.toml")).map (·.overlaid environment)

/-- The directory of the log file. -/
def logDirectory (settings : Settings) (place : String) : String :=
  Path.join place settings.logging.directory

/-- The path of the log file, if there is one; its directory is made. -/
def logPath (settings : Settings) (files : FileTree) (place : String) :
    Except LoadFault (Option String) :=
  match settings.logging.file with
  | none => .ok none
  | some file =>
      if files.hasRoom (settings.logDirectory place) then
        .ok (some (Path.join (settings.logDirectory place) file))
      else .error (.files (settings.logDirectory place))

end Settings

end FoodOrdering
