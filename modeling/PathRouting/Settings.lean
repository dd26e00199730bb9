import PathRouting.Environment
import PathRouting.Numeral
import PathRouting.Router
import PathRouting.Text.Blank

/-! # Settings

How long a lookup may take before it is called slow, and a selector that goes before those of the
tables.  Both come from the environment; what cannot be read counts as not given.
-/

namespace PathRouting

structure Settings where
  slowAfter : Duration
  selector : Option Text
  deriving DecidableEq

namespace Settings

def slowVariable : String := "ROUTETREE_SLOW_MATCH_US"

def selectorVariable : String := "ROUTETREE_SELECTOR"

def variableNames : List String := [slowVariable, selectorVariable]

/-- A number of microseconds in decimal, or in hexadecimal after `0x`, with white space around. -/
def micros? (t : Text) : Option Nat :=
  match Text.trim t with
  | '0' :: 'x' :: t => Numeral.word? 16 t
  | t => Numeral.word? 10 t

def threshold (t : Option Text) : Duration :=
  match t.bind micros? with
  | some n => ⟨n⟩
  | none => Router.usualThreshold

/-- A selector of white space is none. -/
def selectorOf (t : Option Text) : Option Text := (t.map Text.trim).filter (· != [])

def ofEnvironment (env : Environment) : Settings :=
  ⟨threshold (env.value? slowVariable), selectorOf (env.value? selectorVariable)⟩

end Settings

end PathRouting
