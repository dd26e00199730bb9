import PathRouting.Text.Basic

/-! # TOML texts

Texts between single or double quotes, on one line or between three quotes on several.  A line ends
at a newline, with a carriage return before it or none.
-/

namespace PathRouting

namespace Toml

def isSpace (c : Char) : Bool := c == ' ' || c == '\t'

def skip (t : Text) : Text := t.dropWhile isSpace

def newline? : Text → Option Text
  | '\n' :: t => some t
  | '\r' :: '\n' :: t => some t
  | _ => none

def skipLines : Text → Text
  | '\n' :: t => skipLines t
  | '\r' :: '\n' :: t => skipLines t
  | c :: t => if isSpace c then skipLines t else c :: t
  | [] => []

/-- Whether a character may stand in a comment or between quotes as it is. -/
def isPlain (c : Char) : Bool := c == '\t' || (0x20 ≤ c.toNat && c.toNat != 0x7f)

def escape? : Char → Option Char
  | 'b' => some '\x08'
  | 't' => some '\t'
  | 'n' => some '\n'
  | 'f' => some '\x0c'
  | 'r' => some '\r'
  | 'e' => some '\x1b'
  | '"' => some '"'
  | '\\' => some '\\'
  | _ => none

def codeDigits? : Char → Option Nat
  | 'x' => some 2
  | 'u' => some 4
  | 'U' => some 8
  | _ => none

def escaped : Text → Option (Char × Text)
  | [] => none
  | c :: t =>
    match codeDigits? c with
    | some n =>
      if t.length < n then none
      else (Text.hexValue? (t.take n) >>= Text.char?).map (·, t.drop n)
    | none => (escape? c).map (·, t)

def basic : Nat → Text → Option (Text × Text)
  | 0, _ => none
  | _ + 1, [] => none
  | _ + 1, '"' :: t => some ([], t)
  | fuel + 1, '\\' :: t => do
    let (c, t) ← escaped t
    (basic fuel t).map fun (s, t) => (c :: s, t)
  | fuel + 1, c :: t =>
    if isPlain c then (basic fuel t).map fun (s, t) => (c :: s, t) else none

def literal (t : Text) : Option (Text × Text) :=
  let inner := fun c => isPlain c && c != '\''
  match t.dropWhile inner with
  | '\'' :: after => some (t.takeWhile inner, after)
  | _ => none

/-- A text on several lines after its three opening quotes.  Up to two quotes may stand right
before the closing ones, and ends of lines stay as they are. -/
def lines (quote : Char) : Nat → Text → Option (Text × Text)
  | 0, _ => none
  | _ + 1, [] => none
  | fuel + 1, c :: t =>
    if c = quote then
      let run := 1 + (t.takeWhile (· == quote)).length
      if run < 3 then (lines quote fuel t).map fun (s, t) => (c :: s, t)
      else some (List.replicate (min (run - 3) 2) quote, t.drop (min (run - 3) 2 + 2))
    else if c = '\\' ∧ quote = '"' then
      if (newline? (skip t)).isSome then lines quote fuel (skipLines t)
      else do
        let (c, t) ← escaped t
        (lines quote fuel t).map fun (s, t) => (c :: s, t)
    else if isPlain c || (newline? (c :: t)).isSome then
      (lines quote fuel t).map fun (s, t) => (c :: s, t)
    else none

/-- The end of a line right after the opening quotes does not count. -/
def linesAfterBreak (quote : Char) (fuel : Nat) (t : Text) : Option (Text × Text) :=
  lines quote fuel ((newline? t).getD t)

def string (fuel : Nat) : Text → Option (Text × Text)
  | '"' :: '"' :: '"' :: t => linesAfterBreak '"' fuel t
  | '\'' :: '\'' :: '\'' :: t => linesAfterBreak '\'' fuel t
  | '"' :: t => basic fuel t
  | '\'' :: t => literal t
  | _ => none

end Toml

end PathRouting
