import PathRouting.Regex.Flags
import PathRouting.Regex.Unicode.Query

/-! # Escapes

What a backslash and the characters after it stand for.
-/

namespace PathRouting

namespace Regex

inductive Escape where
  | char (c : Char)
  | set (s : CharSet)
  | anchor (a : Anchor)

namespace Escape

/-- Characters with a meaning of their own, in classes too. -/
def isMeta (c : Char) : Bool := "\\.+*?()|[]\x7b\x7d^$#&-~".toList.contains c

def isPlain (c : Char) : Bool :=
  isMeta c || (c.toNat < 0x80 && !c.isAlphanum && c != '<' && c != '>')

def digits (f : Flags) : Nat → Nat → Text → Option (Nat × Text)
  | 0, value, t => some (value, t)
  | n + 1, value, t => do
    let (c, t) ← f.next? t
    let d ← Text.hexDigit? c
    digits f n (16 * value + d) t

def braced (f : Flags) (value : Option Nat) (t : Text) : Option (Nat × Text) :=
  match _h : f.next? t with
  | none => none
  | some (c, rest) =>
    if c = '\x7d' then value.map (·, rest)
    else match Text.hexDigit? c with
      | none => none
      | some d => braced f (some (16 * value.getD 0 + d)) rest
termination_by t.length
decreasing_by exact Flags.length_lt_of_next? _h

/-- A character by the digits of its code, in braces or as many as there must be.  Two digits are a
byte, and without Unicode that has to be an ASCII one. -/
def code (f : Flags) (count : Nat) (t : Text) : Option (Escape × Text) :=
  match f.skip t with
  | '\x7b' :: t => do
    let (value, t) ← braced f none t
    pure (.char (← Text.char? value), t)
  | t => do
    let (value, t) ← digits f count 0 t
    if f.ascii && count = 2 && 0x80 ≤ value then none
    else pure (.char (← Text.char? value), t)

def boundary? (name : Text) : Option Boundary :=
  if name = "start".toList then some .wordStart
  else if name = "end".toList then some .wordEnd
  else if name = "start-half".toList then some .halfStart
  else if name = "end-half".toList then some .halfEnd
  else none

/-- A word boundary; braces after it hold the name of its kind if they start with a letter or a
hyphen. -/
def edge (f : Flags) (t : Text) : Option (Escape × Text) :=
  let isNameChar (c : Char) := c.isAlpha || c == '-'
  let anchor (b : Boundary) : Escape := .anchor (.boundary b f.ascii)
  match t with
  | '\x7b' :: inner =>
    match f.skip inner with
    | [] => none
    | name =>
      if name.head?.any isNameChar then
        match name.dropWhile isNameChar with
        | '\x7d' :: after => (boundary? (name.takeWhile isNameChar)).map fun b => (anchor b, after)
        | _ => none
      else some (anchor .edge, t)
  | t => some (anchor .edge, t)

def inBraces (f : Flags) (t : Text) : Option (Text × Text) :=
  match _h : f.next? t with
  | none => none
  | some (c, rest) =>
    if c = '\x7d' then some ([], rest)
    else (inBraces f rest).map fun (query, after) => (c :: query, after)
termination_by t.length
decreasing_by exact Flags.length_lt_of_next? _h

/-- What a class asks for by property: a text in braces or a single character. -/
def query (f : Flags) (t : Text) : Option (Text × Text) := do
  let (c, t) ← f.next? t
  if c = '\x7b' then inBraces f t
  else if c = '\\' then none
  else pure ([c], t)

/-- The set that is asked for.  Case is set aside before the set is negated. -/
def property? (f : Flags) (negated : Bool) (query : Text) : Option CharSet :=
  if f.ascii then none
  else (Unicode.set? query).map fun s => if negated then (f.fold s).compl else f.fold s

def property (f : Flags) (negated : Bool) (t : Text) : Option (Escape × Text) := do
  let (query, t) ← query f t
  pure (.set (← property? f negated query), t)

def read (f : Flags) : Text → Option (Escape × Text)
  | [] => none
  | c :: t =>
    let set (letter : Char) (negated : Bool) := (f.class? letter negated).map (.set ·, t)
    let anchor (a : Anchor) : Option (Escape × Text) := some (.anchor a, t)
    let char (c : Char) : Option (Escape × Text) := some (.char c, t)
    if isPlain c then char c
    else match c with
      | 'd' => set 'd' false
      | 'D' => set 'd' true
      | 'w' => set 'w' false
      | 'W' => set 'w' true
      | 's' => set 's' false
      | 'S' => set 's' true
      | 'a' => char '\x07'
      | 'f' => char '\x0c'
      | 't' => char '\t'
      | 'n' => char '\n'
      | 'r' => char '\r'
      | 'v' => char '\x0b'
      | 'A' => anchor .textStart
      | 'z' => anchor .textEnd
      | 'b' => edge f t
      | 'B' => anchor (.boundary .noEdge f.ascii)
      | '<' => anchor (.boundary .wordStart f.ascii)
      | '>' => anchor (.boundary .wordEnd f.ascii)
      | 'x' => code f 2 t
      | 'u' => code f 4 t
      | 'U' => code f 8 t
      | 'p' => property f false t
      | 'P' => property f true t
      | _ => none

end Escape

end Regex

end PathRouting
