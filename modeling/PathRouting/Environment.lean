import PathRouting.Dictionary

/-! # Environments

The values of the variables that are set.
-/

namespace PathRouting

abbrev Environment := Dictionary Text

namespace Environment

def value? (env : Environment) (name : String) : Option Text := env.get? name.toList

end Environment

end PathRouting
