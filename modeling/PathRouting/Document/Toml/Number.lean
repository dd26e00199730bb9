import PathRouting.Document.Data

/-! # TOML numbers

Whole numbers in four bases and numbers with a fraction or an exponent.  A whole number is in range
if it fits into 128 bits, with a sign or without, and any other if it is nearer to a finite double
than to infinity.
-/

namespace PathRouting

namespace Toml

/-- Digits, with single underscores between them at most. -/
def isDigits (digit : Char → Bool) (t : Text) : Bool :=
  (Text.split '_' t).all fun part => part != [] && part.all digit

def unsigned : Text → Text
  | '+' :: t => t
  | '-' :: t => t
  | t => t

def valueIn (base : Nat) (t : Text) : Nat :=
  t.foldl (fun n c => (Text.hexDigit? c).elim n (base * n + ·)) 0

def whole (isNegative : Bool) (n : Nat) : Data :=
  let least := if isNegative then Nat.pow 2 127 else Nat.pow 2 128 - 1
  if n ≤ least then .other (if isNegative then '-' :: Text.ofNat n else Text.ofNat n)
  else .overflow

/-- Whether `digits` times ten to the power `up - down` is too large for a double: at least half a
unit of the last place above the largest one. -/
def isTooLarge (digits up down : Nat) : Bool :=
  let length := (Text.ofNat digits).length
  let bound := (Nat.pow 2 54 - 1) * Nat.pow 2 970
  if digits = 0 ∨ length + up < 300 + down then false
  else if 400 + down < length + up then true
  else bound * Nat.pow 10 down ≤ digits * Nat.pow 10 up

/-- The parts of a number in decimal: the digits before and after the point, and the exponent. -/
structure Decimal where
  whole : Text
  fraction : Option Text
  exponent : Option Text

namespace Decimal

def ofText (t : Text) : Decimal :=
  let (number, exponent) := match Text.cut? 'e' (t.map fun c => if c = 'E' then 'e' else c) with
    | some (number, exponent) => (number, some exponent)
    | none => (t, none)
  match Text.cut? '.' number with
  | some (whole, fraction) => ⟨whole, some fraction, exponent⟩
  | none => ⟨number, none, exponent⟩

/-- Whether the parts make a number.  Only the digits before the point start with no needless
zero. -/
def isNumber (d : Decimal) : Bool :=
  isDigits Char.isDigit d.whole && (d.whole.head? != some '0' || d.whole.length == 1) &&
    d.fraction.all (isDigits Char.isDigit) &&
    d.exponent.all fun x => isDigits Char.isDigit (unsigned x)

def isTooLarge (d : Decimal) : Bool :=
  let fraction := (d.fraction.getD []).filter Char.isDigit
  let digits := valueIn 10 (d.whole ++ fraction)
  let exponent := d.exponent.getD ['0']
  let power := valueIn 10 exponent
  if exponent.head? = some '-' then Toml.isTooLarge digits 0 (power + fraction.length)
  else Toml.isTooLarge digits power fraction.length

end Decimal

def decimal? (isNegative : Bool) (t : Text) : Option Data :=
  let d := Decimal.ofText t
  if !d.isNumber then none
  else match d.fraction, d.exponent with
    | none, none => some (whole isNegative (valueIn 10 d.whole))
    | _, _ => some (if d.isTooLarge then .overflow else .other t)

def number? (t : Text) : Option Data :=
  let inBase (base : Nat) (digit : Char → Bool) (t : Text) : Option Data :=
    if isDigits digit t then some (whole false (valueIn base t)) else none
  match t with
  | '0' :: 'x' :: t => inBase 16 (fun c => (Text.hexDigit? c).isSome) t
  | '0' :: 'o' :: t => inBase 8 (fun c => '0' ≤ c && c ≤ '7') t
  | '0' :: 'b' :: t => inBase 2 (fun c => c == '0' || c == '1') t
  | t =>
    if unsigned t = "inf".toList ∨ unsigned t = "nan".toList then some (.other t)
    else decimal? (t.head? = some '-') (unsigned t)

end Toml

end PathRouting
