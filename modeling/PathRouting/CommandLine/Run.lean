import PathRouting.CommandLine.Arguments
import PathRouting.Regex.Match
import PathRouting.Table.Load

/-! # Running commands

Each command loads a router and writes lines about it.  What was written before an error stays
written.
-/

namespace PathRouting

inductive CommandError where
  | unsupportedMethod (name : Text)
  | load (cause : LoadError)
  deriving DecidableEq

namespace CommandError

def message : CommandError → Text
  | .unsupportedMethod name => Method.unsupportedMessage name
  | .load cause => cause.message

end CommandError

structure Report where
  written : Text
  error : Option CommandError
  deriving DecidableEq

namespace Router

def listing (r : Router Controller) : Text :=
  r.tree.routes.flatMap fun route =>
    route.pattern ++ " -> ".toList ++ route.endpoint.name ++ ['\n']

end Router

namespace Outcome

def line (method : Method) (path : Text) : Outcome Controller → Text
  | .matched m =>
    let params := m.params.entries.map fun e => e.1 ++ '=' :: e.2
    method.token ++ ' ' :: path ++ " -> ".toList ++ m.route.endpoint.name ++ " [".toList ++
      m.route.pattern ++ "] ".toList ++ Text.join ' ' params ++
      (if m.isDispatchable method then [] else " (action not exposed)".toList) ++ ['\n']
  | .notFound => method.token ++ ' ' :: path ++ " -> not found\n".toList
  | .malformed p =>
    method.token ++ ' ' :: path ++ " -> malformed: ".toList ++ malformedMessage p ++ ['\n']

end Outcome

namespace Command

def file : Command → Text
  | .check routes => routes
  | .resolve routes _ _ => routes
  | .list routes _ => routes
  | .watch routes => routes

/-- The lines for requests; the lookup of a path takes `elapsed` nanoseconds. -/
def resolveAll (r : Router Controller) (elapsed : Text → Nat) (method : Method) :
    List Text → Logged Text
  | [] => pure []
  | path :: paths => do
    let outcome ← r.route (elapsed path) method path
    let more ← resolveAll r elapsed method paths
    pure (outcome.line method path ++ more)

def withRouter (loaded : Logged (Except LoadError (Router Controller)))
    (write : Router Controller → Logged Text) : Logged Report := do
  match ← loaded with
  | .error cause => pure ⟨[], some (.load cause)⟩
  | .ok r => do
    let written ← write r
    pure ⟨written, none⟩

/-- What a command writes about the router of its file, up to the point where `watch` starts to
wait. -/
def report (loaded : Logged (Except LoadError (Router Controller))) (elapsed : Text → Nat) :
    Command → Logged Report
  | .check routes => withRouter loaded fun r =>
    pure ("ok: ".toList ++ Text.ofNat r.size ++ " routes in ".toList ++ routes ++ ['\n'])
  | .resolve _ method paths =>
    match Method.named? method with
    | none => pure ⟨[], some (.unsupportedMethod method)⟩
    | some m => withRouter loaded fun r => resolveAll r elapsed m paths
  | .list _ asTree => withRouter loaded fun r =>
    pure (if asTree then r.tree.outline else r.listing)
  | .watch routes => withRouter loaded fun _ => do
    Logged.report (.watching routes)
    pure []

/-- The report of a command on some files, where each lookup takes as long. -/
def run (settings : Settings) (files : Files) (elapsed : Nat) (command : Command) :
    Logged Report :=
  command.report (Router.load settings command.file (files command.file)) fun _ => elapsed

end Command

end PathRouting
