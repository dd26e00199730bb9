import PathRouting.Environment
import PathRouting.Event

/-! # Settings of the log

Which events the log shows and how.  Words are known in any letter case; a level that is not known
is `info`.  Only one log can be installed.
-/

namespace PathRouting

inductive LogFormat where
  | json
  | pretty
  deriving DecidableEq

namespace LogFormat

/-- Anything but `pretty` is JSON. -/
def named (t : Text) : LogFormat :=
  if Text.lowerAscii t = "pretty".toList then .pretty else .json

end LogFormat

structure LogSettings where
  levelWord : Text
  format : LogFormat
  /-- What to show of single modules, as written. -/
  filter : Option Text
  /-- Whether a background task does the writing. -/
  isBuffered : Bool
  /-- Whether an event is shown with its place in the program. -/
  showsPlace : Bool
  deriving DecidableEq

namespace LogSettings

def levelVariable : String := "ROUTETREE_LOG_LEVEL"

def formatVariable : String := "ROUTETREE_LOG_FORMAT"

def filterVariable : String := "ROUTETREE_LOG_TARGET_FILTER"

def bufferedVariable : String := "ROUTETREE_LOG_ASYNC"

def placeVariable : String := "ROUTETREE_LOG_INCLUDE_LOCATION"

def variableNames : List String :=
  [levelVariable, formatVariable, filterVariable, bufferedVariable, placeVariable]

/-- Only the exact word `true` turns a switch on. -/
def isOn (t : Option Text) : Bool := t == some "true".toList

def ofEnvironment (env : Environment) : LogSettings where
  levelWord := (env.value? levelVariable).getD "info".toList
  format := (env.value? formatVariable).elim .json .named
  filter := env.value? filterVariable
  isBuffered := isOn (env.value? bufferedVariable)
  showsPlace := isOn (env.value? placeVariable)

def development : LogSettings := ⟨"debug".toList, .pretty, none, false, true⟩

def production : LogSettings := ⟨"info".toList, .json, none, true, false⟩

def level (s : LogSettings) : Level := (Level.named? s.levelWord).getD .info

inductive InstallError where
  | alreadyInstalled (isBuffered : Bool)
  deriving DecidableEq

def InstallError.message : InstallError → String
  | .alreadyInstalled true => "Failed to initialize async logging"
  | .alreadyInstalled false => "Failed to initialize sync logging"

def install (s : LogSettings) : Option LogSettings → Except InstallError LogSettings
  | none => .ok s
  | some _ => .error (.alreadyInstalled s.isBuffered)

end LogSettings

end PathRouting
