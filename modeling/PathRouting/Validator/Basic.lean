import PathRouting.Dictionary
import PathRouting.Pattern.Rule

/-! # Validators

A validator is given a rule and the text left of a segment and returns the part it takes from the
front.  The empty text says that nothing there is to its liking.  What a validator returns need not
be a prefix of what it is given: only its length in bytes counts.
-/

namespace PathRouting

abbrev Validator := Rule → Text → Text

/-- Validators by the name that rules call them by. -/
abbrev Registry := Dictionary Validator

end PathRouting
