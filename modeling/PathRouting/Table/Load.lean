import PathRouting.Files
import PathRouting.Settings
import PathRouting.Table.Build
import PathRouting.Table.Format

/-! # Loading routers

A router is loaded from the text of a table file.  The first fault ends the loading, and there is
no router then.
-/

namespace PathRouting

inductive LoadError where
  | unreadable (path : Text) (fault : FileFault)
  | unparsable (path : Text)
  | unbuildable (path : Text) (cause : BuildError)
  deriving DecidableEq

namespace LoadError

/-- The words for an error, up to the part that only says why a file or its text is none. -/
def message : LoadError → Text
  | .unreadable path _ => "Failed to read route table: ".toList ++ path
  | .unparsable path => "Failed to parse route table: ".toList ++ path
  | .unbuildable path cause =>
    "Failed to build routes from ".toList ++ path ++ ": ".toList ++ cause.message

end LoadError

variable [Engine]

namespace Table

def serve (t : Table) (settings : Settings) (path : Text) :
    Logged (Except LoadError (Router Controller)) := do
  match ← t.buildLogged settings.selector with
  | .error cause => pure (.error (.unbuildable path cause))
  | .ok tree =>
    Logged.report (.tableLoaded path t.controllers.size tree.size t.validators.size)
    let router ← Router.serve tree settings.slowAfter
    pure (.ok router)

end Table

namespace Router

def load (settings : Settings) (path : Text) (content : Except FileFault Text) :
    Logged (Except LoadError (Router Controller)) :=
  match content with
  | .error fault => pure (.error (.unreadable path fault))
  | .ok t =>
    match Table.parse (.ofPath path) t with
    | none => pure (.error (.unparsable path))
    | some table => table.serve settings path

end Router

end PathRouting
