import PathRouting.Validator.Basic

/-! # Built-in validators

Digits are cut to the largest length, runs of word characters are taken whole or not at all, and a
choice is taken whatever its length.
-/

namespace PathRouting

namespace Validator

def all : Validator := fun rule t => if t != [] && rule.admits t.length then t else []

/-- The digits at the front, at most as many as the rule allows. -/
def digits : Validator := fun rule t =>
  let run := (t.take rule.most).takeWhile Char.isDigit
  if run = [] ∨ run.length < rule.least then [] else run

/-- The longest run of characters of a kind at the front, if its length is within bounds. -/
def run (accepts : Char → Bool) : Validator := fun rule t =>
  let run := t.takeWhile accepts
  if run != [] && rule.admits run.length then run else []

def word : Validator := run Text.isAsciiWord

def action : Validator := run fun c => Text.isAsciiWord c || c == '-'

/-- The first choice that is not empty and stands at the front. -/
def choice : Validator := fun rule t =>
  (((Text.split '|' rule.choices).filter (· != [])).find? (·.isPrefixOf t)).getD []

end Validator

namespace Registry

def builtIn : Registry := Dictionary.ofList
  [("any".toList, Validator.all), ("string".toList, Validator.all),
    ("int".toList, Validator.digits), ("word".toList, Validator.word),
    ("action".toList, Validator.action), ("enum".toList, Validator.choice)]

end Registry

end PathRouting
