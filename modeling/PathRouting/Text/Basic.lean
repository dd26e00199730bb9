/-! # Text

A text is the list of its characters.  Cutting at a separator, cutting after a number of UTF-8
bytes, ASCII letter case, and decimal and hexadecimal numerals.
-/

namespace PathRouting

abbrev Text := List Char

namespace Text

def byteLength (t : Text) : Nat := t.foldr (fun c n => c.utf8Size + n) 0

@[simp] theorem byteLength_nil : byteLength [] = 0 := rfl

@[simp] theorem byteLength_cons (c : Char) (t : Text) :
    byteLength (c :: t) = c.utf8Size + byteLength t := rfl

@[simp] theorem byteLength_append (s t : Text) :
    byteLength (s ++ t) = byteLength s + byteLength t := by
  induction s with
  | nil => simp
  | cons c s ih => simp [ih, Nat.add_assoc]

/-- Cut after exactly `n` bytes; absent when `n` passes the end or falls inside a character. -/
def cutBytes? : Text → Nat → Option (Text × Text)
  | t, 0 => some ([], t)
  | [], _ + 1 => none
  | c :: t, n + 1 =>
    if c.utf8Size ≤ n + 1 then
      (cutBytes? t (n + 1 - c.utf8Size)).map fun (s, rest) => (c :: s, rest)
    else none

/-- The pieces between the separators, one more than there are separators. -/
def split (sep : Char) (t : Text) : List Text :=
  t.foldr (fun c ps => if c = sep then [] :: ps else ps.modifyHead (c :: ·)) [[]]

@[simp] theorem split_nil (sep : Char) : split sep [] = [[]] := rfl

theorem split_cons (sep c : Char) (t : Text) :
    split sep (c :: t) =
      if c = sep then [] :: split sep t else (split sep t).modifyHead (c :: ·) := rfl

theorem split_ne_nil (sep : Char) (t : Text) : split sep t ≠ [] := by
  induction t with
  | nil => simp
  | cons c t ih =>
    rw [split_cons]
    split
    · simp
    · cases h : split sep t with
      | nil => exact absurd h ih
      | cons p ps => simp [List.modifyHead]

def join (sep : Char) : List Text → Text
  | [] => []
  | [p] => p
  | p :: ps => p ++ sep :: join sep ps

def cut? (sep : Char) (t : Text) : Option (Text × Text) :=
  match t.dropWhile (· != sep) with
  | [] => none
  | _ :: after => some (t.takeWhile (· != sep), after)

def dropPrefix? : Text → Text → Option Text
  | t, [] => some t
  | [], _ :: _ => none
  | c :: t, d :: p => if c = d then dropPrefix? t p else none

def lowerAscii (t : Text) : Text := t.map Char.toLower

def upperAscii (t : Text) : Text := t.map Char.toUpper

def isIn (ranges : List (Nat × Nat)) (c : Char) : Bool :=
  ranges.any fun (low, high) => low ≤ c.toNat && c.toNat ≤ high

def isAsciiWord (c : Char) : Bool := c.isAlphanum || c == '_'

/-- The value of decimal digits read from the left, other characters counting by their code. -/
def decimalValue (t : Text) : Nat := t.foldl (fun n c => 10 * n + (c.toNat - '0'.toNat)) 0

def hexDigit? (c : Char) : Option Nat :=
  if c.isDigit then some (c.toNat - '0'.toNat)
  else if 'a' ≤ c ∧ c ≤ 'f' then some (c.toNat - 'a'.toNat + 10)
  else if 'A' ≤ c ∧ c ≤ 'F' then some (c.toNat - 'A'.toNat + 10)
  else none

def hexValue? (t : Text) : Option Nat :=
  t.foldlM (fun n c => (hexDigit? c).map (16 * n + ·)) 0

def ofNat (n : Nat) : Text := Nat.toDigits 10 n

def hexOfNat (n : Nat) : Text := Nat.toDigits 16 n

/-- The character with a code, absent for surrogates and codes past the last plane. -/
def char? (code : Nat) : Option Char :=
  if h : code.isValidChar then some (Char.ofNatAux code h) else none

end Text

end PathRouting
