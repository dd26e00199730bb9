import PathRouting.Table.Load

/-! # Services

A service answers requests by its current router while the file of its table changes.  A load that
succeeds replaces the router as a whole; one that fails changes nothing.  Routers that were kept
answer as before whatever is loaded later.
-/

namespace PathRouting

structure Service where
  settings : Settings
  /-- The path of the table file. -/
  path : Text
  /-- What there is to read from the table file. -/
  file : Except FileFault Text
  current : Option (Router Controller)
  /-- What was current whenever the current router was kept, in order. -/
  kept : List (Option (Router Controller))

namespace Service

def start (settings : Settings) (path : Text) : Service :=
  ⟨settings, path, Files.ofList [] path, none, []⟩

inductive Step where
  | write (t : Text)
  /-- Write bytes, which may be no text. -/
  | writeBytes (bytes : ByteArray)
  | delete
  | load
  | reload
  | keep
  /-- A request, and how many nanoseconds its lookup takes. -/
  | route (elapsed : Nat) (method : Method) (path : Text)
  /-- A request to the router that was kept last. -/
  | routeKept (elapsed : Nat) (method : Method) (path : Text)
  /-- A request to one of the routers that were kept, by its number. -/
  | routeKeptAs (number elapsed : Nat) (method : Method) (path : Text)

inductive Answer where
  | done
  | loaded (result : Except LoadError (Router Controller))
  /-- Without a router there is no outcome. -/
  | routed (outcome : Option (Outcome Controller))

variable [Engine]

def attempt (s : Service) : Logged (Except LoadError (Router Controller)) :=
  Router.load s.settings s.path s.file

def adopt (s : Service) : Except LoadError (Router Controller) → Service
  | .ok r => { s with current := some r }
  | .error _ => s

def answer (r : Option (Router Controller)) (elapsed : Nat) (method : Method) (path : Text) :
    Logged Answer :=
  match r with
  | some r => do pure (.routed (some (← r.route elapsed method path)))
  | none => pure (.routed none)

def step (s : Service) : Step → Logged (Service × Answer)
  | .write t => pure ({ s with file := .ok t }, .done)
  | .writeBytes bytes => pure ({ s with file := Files.decode bytes }, .done)
  | .delete => pure ({ s with file := Files.ofList [] s.path }, .done)
  | .load => do
    let result ← s.attempt
    pure (s.adopt result, .loaded result)
  | .reload => do
    let result ← s.attempt
    match result with
    | .ok r => Logged.report (.swapped s.path r.size)
    | .error _ => pure ()
    pure (s.adopt result, .loaded result)
  | .keep => pure ({ s with kept := s.kept ++ [s.current] }, .done)
  | .route elapsed method path => do pure (s, ← answer s.current elapsed method path)
  | .routeKept elapsed method path => do pure (s, ← answer s.kept.getLast?.join elapsed method path)
  | .routeKeptAs number elapsed method path => do
    pure (s, ← answer s.kept[number]?.join elapsed method path)

def run (s : Service) : List Step → Service × List Answer
  | [] => (s, [])
  | step :: steps =>
    let (s, answer) := (s.step step).value
    let (s, answers) := run s steps
    (s, answer :: answers)

end Service

end PathRouting
