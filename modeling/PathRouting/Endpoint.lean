import PathRouting.Dictionary
import PathRouting.Method

/-! # Endpoints

What a route leads to.  An endpoint has a name and says which selector values it exposes to which
methods.  A controller exposes its actions.
-/

namespace PathRouting

class Endpoint (ε : Type) where
  name : ε → Text
  supports : ε → Method → Text → Bool

/-- An action without methods takes every method. -/
structure Controller where
  name : Text
  actions : Dictionary (List Method)
  deriving DecidableEq

namespace Controller

def of (name : Text) : Controller := ⟨name, ∅⟩

def withAction (c : Controller) (action : Text) (methods : List Method) : Controller :=
  { c with actions := c.actions.insert action methods }

/-- Whether the methods of an action let a method in; `HEAD` goes wherever `GET` does. -/
def accepts (methods : List Method) (m : Method) : Bool :=
  methods.isEmpty || methods.contains m || (m == .head && methods.contains .get)

def supports (c : Controller) (m : Method) (action : Text) : Bool :=
  (c.actions.get? action).any (accepts · m)

end Controller

instance : Endpoint Controller := ⟨Controller.name, Controller.supports⟩

end PathRouting
