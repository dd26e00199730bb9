import PathRouting.Text.Basic

/-! # Engines

Which texts are regular expressions, and what one finds in a text, is left to an engine.
-/

namespace PathRouting

/-- A match, and the texts before and after it. -/
structure Found where
  before : Text
  matched : Text
  after : Text
  deriving DecidableEq

class Engine where
  Expression : Type
  /-- Absent where a text is no expression, or one that is too large. -/
  compile? : Text → Option Expression
  find? : Expression → Text → Option Found
  slice : ∀ {e : Expression} {t : Text} {found : Found},
    find? e t = some found → t = found.before ++ found.matched ++ found.after

end PathRouting
