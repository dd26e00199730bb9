import PathRouting.Text.Basic

/-! # Numerals

Whole numbers in a base of at most sixteen, with one plus sign at most, and words of 64 bits.
-/

namespace PathRouting

namespace Numeral

def digit? (base : Nat) (c : Char) : Option Nat := (Text.hexDigit? c).filter (· < base)

/-- The value of some digits read after others of value `n`. -/
def value? (base : Nat) (n : Nat) : Text → Option Nat
  | [] => some n
  | c :: t => (digit? base c).bind fun d => value? base (base * n + d) t

/-- The number of a text of one digit or more, which a plus sign may start. -/
def parse? (base : Nat) (t : Text) : Option Nat :=
  let digits := match t with
    | '+' :: t => t
    | t => t
  if digits = [] then none else value? base 0 digits

def wordLimit : Nat := Nat.pow 2 64

def word? (base : Nat) (t : Text) : Option Nat := (parse? base t).filter (· < wordLimit)

end Numeral

end PathRouting
