import PathRouting.Pattern.Basic

/-! # Rejections

Why a pattern is not registered.  A rejection carries the pattern as it was given and the fault
found in it; the fault lies in the pattern itself or in its place among the registered ones.
-/

namespace PathRouting

inductive Fault where
  /-- A `..` segment. -/
  | parentSegment
  /-- A `>` that closes nothing, or a `<` that is never closed. -/
  | unbalanced
  /-- A `<` inside a placeholder. -/
  | nested
  /-- A name that is empty or no identifier. -/
  | badName (name : Text)
  /-- A validator part of another form than `name` or `name(setting)`. -/
  | badValidator (spec : Text)
  /-- A length above 255. -/
  | badLength (digits : Text)
  /-- A name used before in the pattern. -/
  | repeatedName (name : Text)
  /-- More than 255 names. -/
  | tooManyNames
  /-- A `*` outside the rest marker. -/
  | strayStar
  /-- A rest marker with segments after it. -/
  | restNotLast
  /-- A rest marker beside other segments. -/
  | restConflict (sibling : Text)
  /-- A pattern with the same segments is registered. -/
  | taken
  /-- More segments than a depth can count. -/
  | tooDeep
  deriving DecidableEq

structure Rejection where
  pattern : Text
  fault : Fault
  deriving DecidableEq

namespace Fault

/-- Whether the pattern itself is at fault, and not its place among the others. -/
def isSyntactic : Fault → Bool
  | .restConflict _ | .taken | .tooDeep => false
  | _ => true

def explanation : Fault → Text
  | .parentSegment => ": '..' segments are not allowed".toList
  | .unbalanced => ": unbalanced '<' / '>' in placeholder".toList
  | .nested => ": placeholders cannot be nested".toList
  | .badName name => ": invalid parameter name '".toList ++ name ++
      "' (must start with a letter and contain only word characters)".toList
  | .badValidator spec => ": invalid validator '".toList ++ spec ++
      "'. Expected format: name or name(setting)".toList
  | .badLength digits => ": length setting '".toList ++ digits ++
      "' is out of range (0-255)".toList
  | .repeatedName name => ": parameter '".toList ++ name ++ "' is declared twice".toList
  | .tooManyNames => ": more than 255 parameters".toList
  | .strayStar => ": '*' is only allowed as the catch-all segment '*pathInfo'".toList
  | .restNotLast => ": catch-all '*pathInfo' must be the last segment".toList
  | .restConflict sibling => ": catch-all conflicts with existing segment '".toList ++ sibling ++
      "'".toList
  | .taken => " is already registered".toList
  | .tooDeep => ": too many path segments".toList

end Fault

namespace Rejection

def isSyntactic (r : Rejection) : Bool := r.fault.isSyntactic

def message (r : Rejection) : Text :=
  "route '".toList ++ r.pattern ++ "'".toList ++ r.fault.explanation

end Rejection

end PathRouting
