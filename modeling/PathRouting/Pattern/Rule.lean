import PathRouting.Text.Basic

/-! # Rules

The rule of a placeholder names a validator and says which lengths it may match, which choices it
has, and which value stands in when the path stops before it.
-/

namespace PathRouting

structure Rule where
  validator : Text
  default : Option Text
  choices : Text
  least : Nat
  most : Nat
  deriving DecidableEq

namespace Rule

def largestLength : Nat := 255

/-- The rule that asks only for a validator: one to 255 long, no choices, no default. -/
def of (validator : Text) : Rule := ⟨validator, none, [], 1, largestLength⟩

/-- Bounds may be given in either order. -/
def withLengths (r : Rule) (a b : Nat) : Rule := { r with least := min a b, most := max a b }

def withChoices (r : Rule) (choices : Text) : Rule := { r with choices }

def withDefault (r : Rule) (value : Text) : Rule := { r with default := some value }

def hasDefault (r : Rule) : Bool := r.default.isSome

def admits (r : Rule) (length : Nat) : Bool := r.least ≤ length && length ≤ r.most

end Rule

end PathRouting
