import PathRouting.Engine
import PathRouting.Validator.BuiltIn

/-! # Validators from regular expressions

The expression is wrapped in a group after a start anchor.  The rule bounds the number of characters
of the match, and what is taken runs from the start of the text to the end of the match.
-/

namespace PathRouting

variable [Engine]

namespace Validator

def anchored (expression : Text) : Text := "^(?:".toList ++ expression ++ [')']

def matching (e : Engine.Expression) : Validator := fun rule t =>
  match Engine.find? e t with
  | some found =>
    if found.matched != [] && rule.admits found.matched.length then found.before ++ found.matched
    else []
  | none => []

end Validator

namespace Registry

def addExpression? (registry : Registry) (name expression : Text) : Option Registry :=
  (Engine.compile? (Validator.anchored expression)).map fun e =>
    registry.insert name (Validator.matching e)

end Registry

end PathRouting
