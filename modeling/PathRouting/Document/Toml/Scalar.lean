import PathRouting.Document.Toml.Moment
import PathRouting.Document.Toml.Number

/-! # TOML scalars without quotes

Numbers, moments, `true` and `false`.
-/

namespace PathRouting

namespace Toml

def isWordChar (c : Char) : Bool := c.isAlphanum || "+-_.:".toList.contains c

/-- The spelling of a scalar without quotes.  A space may stand between a date and a time. -/
def word (t : Text) : Text :=
  let first := t.takeWhile isWordChar
  match t.drop first.length with
  | ' ' :: d :: after =>
    if isDate first && d.isDigit then first ++ ' ' :: d :: after.takeWhile isWordChar else first
  | _ => first

def ofWord? (w : Text) : Option Data :=
  if w = "true".toList ∨ w = "false".toList then some (.other w)
  else match number? w with
    | some d => some d
    | none => (moment? w).map fun t => .map [(.text momentKey, .text t)]

def scalar (t : Text) : Option (Data × Text) :=
  let w := word t
  (ofWord? w).map (·, t.drop w.length)

end Toml

end PathRouting
