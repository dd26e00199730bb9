import PathRouting.Document.Data

/-! # JSON

Reading and writing JSON.  A string with half of a surrogate pair is read, but as no text; numbers
keep their spelling, whatever their size.  What JSON has no word for is written as `null`.
-/

namespace PathRouting

namespace Json

/-! ## Writing -/

def escape (c : Char) : Text :=
  if c = '"' then ['\\', '"']
  else if c = '\\' then ['\\', '\\']
  else if c = '\n' then ['\\', 'n']
  else if c = '\r' then ['\\', 'r']
  else if c = '\t' then ['\\', 't']
  else if c = '\x08' then ['\\', 'b']
  else if c = '\x0c' then ['\\', 'f']
  else if c.toNat < 0x20 then
    ['\\', 'u', '0', '0', Nat.digitChar (c.toNat / 16), Nat.digitChar (c.toNat % 16)]
  else [c]

def quote (t : Text) : Text := '"' :: t.flatMap escape ++ ['"']

mutual

def render : Data → Text
  | .null => "null".toList
  | .text t => quote t
  | .plain _ t => quote t
  | .other spelling => spelling
  | .overflow => "null".toList
  | .reference _ => "null".toList
  | .list ds => '[' :: renderItems ds ++ [']']
  | .map es => '\x7b' :: renderEntries es ++ ['\x7d']
termination_by structural d => d

def renderItems : List Data → Text
  | [] => []
  | [d] => render d
  | d :: ds => render d ++ ',' :: renderItems ds
termination_by structural ds => ds

def renderEntries : List (Data × Data) → Text
  | [] => []
  | [(k, d)] => render k ++ ':' :: render d
  | (k, d) :: es => render k ++ ':' :: render d ++ ',' :: renderEntries es
termination_by structural es => es

end

/-! ## Reading -/

def isSpace (c : Char) : Bool := c == ' ' || c == '\n' || c == '\t' || c == '\r'

def skip (t : Text) : Text := t.dropWhile isSpace

def code? : Text → Option (Nat × Text)
  | a :: b :: c :: d :: t => (Text.hexValue? [a, b, c, d]).map (·, t)
  | _ => none

def isHighSurrogate (code : Nat) : Bool := 0xd800 ≤ code && code < 0xdc00

def isLowSurrogate (code : Nat) : Bool := 0xdc00 ≤ code && code < 0xe000

def shortEscape? : Char → Option Char
  | '"' => some '"'
  | '\\' => some '\\'
  | '/' => some '/'
  | 'b' => some '\x08'
  | 'f' => some '\x0c'
  | 'n' => some '\n'
  | 'r' => some '\r'
  | 't' => some '\t'
  | _ => none

/-- A part of a string: a character, or half of a surrogate pair. -/
abbrev Unit := Char ⊕ Nat

def units : Nat → Text → Option (List Unit × Text)
  | 0, _ => none
  | _ + 1, [] => none
  | _ + 1, '"' :: t => some ([], t)
  | fuel + 1, '\\' :: 'u' :: t => do
    let (code, t) ← code? t
    let (us, t) ← units fuel t
    pure ((match Text.char? code with
      | some c => .inl c
      | none => .inr code) :: us, t)
  | fuel + 1, '\\' :: c :: t => do
    let c ← shortEscape? c
    let (us, t) ← units fuel t
    pure (.inl c :: us, t)
  | fuel + 1, c :: t => do
    if c = '\\' ∨ c.toNat < 0x20 then none
    let (us, t) ← units fuel t
    pure (.inl c :: us, t)

/-- The text of the parts, if all surrogates are paired. -/
def textOf? : List Unit → Option Text
  | [] => some []
  | .inl c :: us => (textOf? us).map (c :: ·)
  | .inr high :: .inr low :: us =>
    if isHighSurrogate high && isLowSurrogate low then do
      let c ← Text.char? (0x10000 + (high - 0xd800) * 0x400 + (low - 0xdc00))
      (textOf? us).map (c :: ·)
    else none
  | .inr _ :: _ => none

def string (fuel : Nat) (t : Text) : Option (Data × Text) := do
  let (us, after) ← units fuel t
  match textOf? us with
  | some s => pure (.text s, after)
  | none => pure (.other ('"' :: t.take (t.length - after.length)), after)

def digits (t : Text) : Option (Text × Text) :=
  if t.head?.any Char.isDigit then some (t.span Char.isDigit) else none

def exponent (letter : Char) : Text → Option (Text × Text)
  | '+' :: t => (digits t).map fun (ds, t) => (letter :: '+' :: ds, t)
  | '-' :: t => (digits t).map fun (ds, t) => (letter :: '-' :: ds, t)
  | t => (digits t).map fun (ds, t) => (letter :: ds, t)

def number (t : Text) : Option (Text × Text) := do
  let (sign, t) := match t with
    | '-' :: t => (['-'], t)
    | t => ([], t)
  let (whole, t) ← match t with
    | '0' :: t => if t.head?.any Char.isDigit then none else some (['0'], t)
    | t => digits t
  let (fraction, t) ← match t with
    | '.' :: t => (digits t).map fun (ds, t) => ('.' :: ds, t)
    | t => some ([], t)
  let (power, t) ← match t with
    | 'e' :: t => exponent 'e' t
    | 'E' :: t => exponent 'E' t
    | t => some ([], t)
  pure (sign ++ whole ++ fraction ++ power, t)

/-- A value that is neither string nor list nor map. -/
def scalar (t : Text) : Option (Data × Text) :=
  match Text.dropPrefix? t "null".toList with
  | some t => some (.null, t)
  | none =>
    match Text.dropPrefix? t "true".toList with
    | some after => some (.other "true".toList, after)
    | none =>
      match Text.dropPrefix? t "false".toList with
      | some after => some (.other "false".toList, after)
      | none => (number t).map fun (spelling, after) => (.other spelling, after)

mutual

def value : Nat → Text → Option (Data × Text)
  | 0, _ => none
  | fuel + 1, t =>
    match skip t with
    | '\x7b' :: t =>
      match skip t with
      | '\x7d' :: t => some (.map [], t)
      | t => (entries fuel t).map fun (es, t) => (.map es, t)
    | '[' :: t =>
      match skip t with
      | ']' :: t => some (.list [], t)
      | t => (items fuel t).map fun (ds, t) => (.list ds, t)
    | '"' :: t => string fuel t
    | t => scalar t

def items : Nat → Text → Option (List Data × Text)
  | 0, _ => none
  | fuel + 1, t => do
    let (d, t) ← value fuel t
    match skip t with
    | ',' :: t =>
      let (ds, t) ← items fuel t
      pure (d :: ds, t)
    | ']' :: t => pure ([d], t)
    | _ => none

def entries : Nat → Text → Option (List (Data × Data) × Text)
  | 0, _ => none
  | fuel + 1, t => do
    match skip t with
    | '"' :: t =>
      let (k, t) ← string fuel t
      match skip t with
      | ':' :: t =>
        let (d, t) ← value fuel t
        match skip t with
        | ',' :: t =>
          let (es, t) ← entries fuel t
          pure ((k, d) :: es, t)
        | '\x7d' :: t => pure ([(k, d)], t)
        | _ => none
      | _ => none
    | _ => none

end

def parse (t : Text) : Option Data :=
  match value (2 * t.length + 2) t with
  | some (d, after) => if skip after = [] then some d else none
  | none => none

end Json

end PathRouting
