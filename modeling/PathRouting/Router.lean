import PathRouting.Duration
import PathRouting.Tree.Lookup
import PathRouting.Tree.Outline

/-! # Routers

A router serves a finished tree.  It reports every request, and warns of those that take longer
than a threshold.
-/

namespace PathRouting

structure Router (ε : Type) where
  tree : Tree ε
  slowAfter : Duration

namespace Router

variable {ε : Type}

def usualThreshold : Duration := ⟨1000⟩

def shownPatterns : Nat := 10

/-- Serve a tree, with a report of its size and a warning for each validator it lacks. -/
def serve (t : Tree ε) (slowAfter : Duration) : Logged (Router ε) :=
  ⟨⟨t, slowAfter⟩,
    .treeServed t.size t.selector (t.patterns.take shownPatterns) ::
      t.missingValidators.map .validatorMissing⟩

def size (r : Router ε) : Nat := r.tree.size

variable [Endpoint ε]

def report (r : Router ε) (elapsed : Nat) (method : Method) (path : Text) : Outcome ε → Event
  | .matched m =>
    let name := Endpoint.name m.route.endpoint
    if elapsed > 1000 * r.slowAfter.micros then
      .matchedSlowly method.token path name m.route.pattern
    else .matched method.token path name m.route.pattern
  | .notFound => .unmatched method.token path
  | .malformed p => .malformed method.token path (Outcome.malformedMessage p)

def route (r : Router ε) (elapsed : Nat) (method : Method) (path : Text) : Logged (Outcome ε) := do
  Logged.report (.attempted method.token path)
  let outcome ← r.tree.lookupLogged method path
  Logged.report (r.report elapsed method path outcome)
  pure outcome

def dump (r : Router ε) : Text :=
  "[routes] count=".toList ++ Text.ofNat r.size ++ ['\n'] ++
    r.tree.routes.flatMap fun route =>
      "[route] ".toList ++ route.pattern ++ " -> ".toList ++ Endpoint.name route.endpoint ++ ['\n']

def summary (r : Router ε) : Text :=
  "Router \x7b tree: ".toList ++ r.tree.summary ++ ", slow_match: ".toList ++ r.slowAfter.render ++
    " \x7d".toList

end Router

end PathRouting
