import PathRouting.Endpoint
import PathRouting.Event
import PathRouting.Pattern.Parse
import PathRouting.Tree.Node
import PathRouting.Validator.BuiltIn

/-! # Trees

A tree holds the routes registered so far, merged by common segments, with the validators that
their placeholders call and the name of the selector parameter.
-/

namespace PathRouting

structure Tree (ε : Type) where
  root : Node ε
  registry : Registry
  selector : Text
  routes : List (Route ε)

namespace Tree

variable {ε : Type}

def usualSelector : Text := "action".toList

def empty (registry : Registry) (selector : Text) : Tree ε := ⟨.root, registry, selector, []⟩

def size (t : Tree ε) : Nat := t.routes.length

def isEmpty (t : Tree ε) : Bool := t.routes.isEmpty

def patterns (t : Tree ε) : List Text := t.routes.map (·.pattern)

/-- Register a pattern.  A rejected one leaves nothing behind. -/
def add (t : Tree ε) (pattern : Text) (endpoint : ε) : Except Rejection (Tree ε) :=
  let route : Route ε := ⟨pattern, endpoint⟩
  match Pattern.parse pattern with
  | .error rejection => .error rejection
  | .ok [] =>
    if t.root.route.isSome then .error ⟨pattern, .taken⟩
    else .ok { t with root := t.root.withRoute route, routes := t.routes ++ [route] }
  | .ok (s :: ss) =>
    match t.root.fault? s ss with
    | some fault => .error ⟨pattern, fault⟩
    | none => .ok { t with root := t.root.graft route 1 s ss, routes := t.routes ++ [route] }

def register [Endpoint ε] (t : Tree ε) (pattern : Text) (endpoint : ε) :
    Logged (Except Rejection (Tree ε)) :=
  match t.add pattern endpoint with
  | .ok t => do
    Logged.report (.registered pattern (Endpoint.name endpoint))
    pure (.ok t)
  | .error rejection => pure (.error rejection)

def missingValidators (t : Tree ε) : List Text :=
  let missing := t.root.validators.filter fun v => !t.registry.contains v
  (Dictionary.ofList (missing.map (·, ()))).keys

end Tree

end PathRouting
