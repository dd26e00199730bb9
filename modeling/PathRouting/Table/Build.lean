import PathRouting.Table.Basic
import PathRouting.Tree.Basic
import PathRouting.Validator.Expression

/-! # Building trees

A tree is built from a table all or nothing: first the validators, then the controllers, then the
routes in their order.
-/

namespace PathRouting

inductive BuildError where
  | badExpression (validator : Text)
  | badMethod (controller action method : Text)
  | unknownController (index : Nat) (route : RouteSpec)
  | rejected (index : Nat) (controller : Text) (rejection : Rejection)
  deriving DecidableEq

namespace BuildError

/-- The words for an error, up to the part that only says why an expression is none. -/
def message : BuildError → Text
  | .badExpression validator => "Invalid pattern for validator '".toList ++ validator ++ ['\'']
  | .badMethod controller action method =>
    "Controller '".toList ++ controller ++ "', action '".toList ++ action ++ "': ".toList ++
      Method.unsupportedMessage method
  | .unknownController index route =>
    "Route #".toList ++ Text.ofNat index ++ " '".toList ++ route.pattern ++
      "': unknown controller '".toList ++ route.controller ++ ['\'']
  | .rejected index controller rejection =>
    "Route #".toList ++ Text.ofNat index ++ " -> ".toList ++ controller ++ ": ".toList ++
      rejection.message

end BuildError

namespace Table

variable [Engine]

def addValidators : List (Text × Text) → Registry → Except BuildError Registry
  | [], registry => .ok registry
  | (name, expression) :: es, registry =>
    match registry.addExpression? name expression with
    | some registry => addValidators es registry
    | none => .error (.badExpression name)

def methods (controller action : Text) : List Text → Except BuildError (List Method)
  | [] => .ok []
  | name :: names =>
    match Method.named? name with
    | some m => (methods controller action names).map (m :: ·)
    | none => .error (.badMethod controller action name)

def addActions (c : Controller) : List (Text × List Text) → Except BuildError Controller
  | [] => .ok c
  | (action, names) :: es =>
    match methods c.name action names with
    | .ok ms => addActions (c.withAction action ms) es
    | .error e => .error e

def addControllers : List (Text × ControllerSpec) → Dictionary Controller →
    Except BuildError (Dictionary Controller)
  | [], controllers => .ok controllers
  | (name, spec) :: es, controllers =>
    match addActions (.of name) spec.actions.entries with
    | .ok c => addControllers es (controllers.insert name c)
    | .error e => .error e

/-- Register the routes of a table, the first of them with number `index`. -/
def addRoutes (controllers : Dictionary Controller) (index : Nat) :
    List RouteSpec → Tree Controller → Logged (Except BuildError (Tree Controller))
  | [], tree => pure (.ok tree)
  | route :: routes, tree =>
    match controllers.get? route.controller with
    | none => pure (.error (.unknownController index route))
    | some c => do
      match ← tree.register route.pattern c with
      | .ok tree => addRoutes controllers (index + 1) routes tree
      | .error rejection => pure (.error (.rejected index route.controller rejection))

/-- The tree of a table.  A selector given here goes before the table's own. -/
def buildLogged (t : Table) (selector : Option Text) :
    Logged (Except BuildError (Tree Controller)) :=
  match addValidators t.validators.entries .builtIn with
  | .error e => pure (.error e)
  | .ok registry =>
    match addControllers t.controllers.entries ∅ with
    | .error e => pure (.error e)
    | .ok controllers =>
      let selector := (selector.or t.selector).getD Tree.usualSelector
      addRoutes controllers 0 t.routes (.empty registry selector)

def build (t : Table) (selector : Option Text) : Except BuildError (Tree Controller) :=
  (t.buildLogged selector).value

end Table

end PathRouting
