import PathRouting.Document.Data

/-! # TOML dates and times

A date, a time of day, or both with an offset or none.  Where a map is wanted it is a map of one
entry with the moment in its usual spelling.
-/

namespace PathRouting

namespace Toml

def fixed? (digits : Nat) (t : Text) : Option Nat :=
  if t.length = digits ∧ t.all Char.isDigit then some (Text.decimalValue t) else none

def daysIn (year month : Nat) : Nat :=
  if month = 2 then
    if year % 4 = 0 ∧ (year % 100 ≠ 0 ∨ year % 400 = 0) then 29 else 28
  else if month ∈ [4, 6, 9, 11] then 30 else 31

def isDate (t : Text) : Bool :=
  match Text.split '-' t with
  | [y, m, d] =>
    match fixed? 4 y, fixed? 2 m, fixed? 2 d with
    | some y, some m, some d => 1 ≤ m && m ≤ 12 && 1 ≤ d && d ≤ daysIn y m
    | _, _, _ => false
  | _ => false

def isPart (most : Nat) (t : Text) : Bool := (fixed? 2 t).any (· ≤ most)

/-- The usual spelling of a fraction of a second: nine digits at most, and no zeros at the end but
for a first one. -/
def fraction (digits : Text) : Text :=
  match ((digits.take 9).reverse.dropWhile (· == '0')).reverse with
  | [] => ['0']
  | ds => ds

def seconds? (t : Text) : Option Text :=
  match Text.cut? '.' t with
  | some (whole, digits) =>
    if isPart 60 whole && digits != [] && digits.all Char.isDigit then
      some (whole ++ '.' :: fraction digits)
    else none
  | none => if isPart 60 t then some t else none

def time? (t : Text) : Option Text :=
  match Text.split ':' t with
  | [h, m] => if isPart 23 h && isPart 59 m then some t else none
  | [h, m, s] => do
    let s ← seconds? s
    if isPart 23 h && isPart 59 m then some (h ++ ':' :: m ++ ':' :: s) else none
  | _ => none

def offset? : Text → Option Text
  | [] => some []
  | ['Z'] => some ['Z']
  | ['z'] => some ['Z']
  | sign :: t =>
    match Text.split ':' t with
    | [h, m] =>
      if (sign == '+' || sign == '-') && isPart 23 h && isPart 59 m then
        some ((if t = "00:00".toList then '+' else sign) :: t)
      else none
    | _ => none

def zonedTime? (t : Text) : Option Text := do
  let clock := t.takeWhile fun c => c.isDigit || c == ':' || c == '.'
  pure ((← time? clock) ++ (← offset? (t.drop clock.length)))

def moment? (t : Text) : Option Text :=
  if isDate (t.take 10) then
    match t.drop 10 with
    | [] => some t
    | c :: clock =>
      if c = 'T' ∨ c = 't' ∨ c = ' ' then
        (zonedTime? clock).map fun clock => t.take 10 ++ 'T' :: clock
      else none
  else time? t

/-- The key of the entry that holds the spelling of a moment. -/
def momentKey : Text := "$__toml_private_datetime".toList

end Toml

end PathRouting
