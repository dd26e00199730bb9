import PathRouting.Document.Toml.Item
import PathRouting.Document.Toml.Quoted
import PathRouting.Document.Toml.Scalar

/-! # TOML documents

A document is a list of statements, each on lines of its own: entries, which go to the table that
was opened last, and headers, which open tables.
-/

namespace PathRouting

namespace Toml

/-- The rest after spaces, ends of lines and comments. -/
def gap (inComment : Bool) : Text → Option Text
  | [] => some []
  | '\n' :: t => gap false t
  | '\r' :: '\n' :: t => gap false t
  | c :: t =>
    if inComment then if isPlain c then gap true t else none
    else if isSpace c then gap false t
    else if c = '#' then gap true t
    else some (c :: t)

def lineEnd (t : Text) : Option Text :=
  let after := match skip t with
    | '#' :: t => t.dropWhile isPlain
    | t => t
  if after = [] then some [] else newline? after

/-- How many parts a key may have, and how deep lists and tables in braces may be nested. -/
def deepest : Nat := 80

def isBareChar (c : Char) : Bool := c.isAlphanum || c == '_' || c == '-'

def key (fuel : Nat) : Text → Option (Text × Text)
  | '"' :: t => basic fuel t
  | '\'' :: t => literal t
  | t =>
    let name := t.takeWhile isBareChar
    if name = [] then none else some (name, t.dropWhile isBareChar)

/-- The parts of a key with dots between them, `most` at most, and the rest after the spaces that
follow. -/
def keys (fuel : Nat) : Nat → Text → Option (List Text × Text)
  | 0, _ => none
  | most + 1, t => do
    let (k, t) ← key fuel (skip t)
    match skip t with
    | '.' :: t => (keys fuel most t).map fun (ks, t) => (k :: ks, t)
    | t => pure ([k], t)

def dottedKey (fuel : Nat) (t : Text) : Option (List Text × Text) := keys fuel deepest t

mutual

def value : Nat → Nat → Text → Option (Data × Text)
  | 0, _, _ => none
  | fuel + 1, around, t =>
    match t with
    | '[' :: t =>
      if deepest ≤ around then none
      else (items fuel (around + 1) t).map fun (ds, t) => (.list ds, t)
    | '\x7b' :: t =>
      if deepest ≤ around then none
      else (inline fuel (around + 1) [] t).map fun (es, t) => (.map (entriesToData es), t)
    | '"' :: _ => (string fuel t).map fun (s, t) => (.text s, t)
    | '\'' :: _ => (string fuel t).map fun (s, t) => (.text s, t)
    | t => scalar t

def items : Nat → Nat → Text → Option (List Data × Text)
  | 0, _, _ => none
  | fuel + 1, around, t => do
    match ← gap false t with
    | ']' :: t => pure ([], t)
    | t =>
      let (d, t) ← value fuel around t
      match ← gap false t with
      | ',' :: t => (items fuel around t).map fun (ds, t) => (d :: ds, t)
      | ']' :: t => pure ([d], t)
      | _ => none

/-- The entries of a table in braces after its opening brace or a comma.  Lines may end around keys
and values. -/
def inline : Nat → Nat → Entries → Text → Option (Entries × Text)
  | 0, _, _, _ => none
  | fuel + 1, around, es, t => do
    match ← gap false t with
    | '\x7d' :: t => pure (es, t)
    | t =>
      let (ks, t) ← dottedKey fuel t
      match ← gap false t with
      | '=' :: t =>
        let (d, t) ← value fuel around (← gap false t)
        let es ← es.add true d ks
        match ← gap false t with
        | ',' :: t => inline fuel around es t
        | '\x7d' :: t => pure (es, t)
        | _ => none
      | _ => none

end

inductive Statement where
  | entry (keys : List Text) (d : Data)
  | table (keys : List Text)
  | nextTable (keys : List Text)

def entry (fuel : Nat) (t : Text) : Option (Statement × Text) := do
  let (ks, t) ← dottedKey fuel t
  match t with
  | '=' :: t =>
    let (d, t) ← value fuel 0 (skip t)
    pure (.entry ks d, t)
  | _ => none

def statement (fuel : Nat) : Text → Option (Statement × Text)
  | '[' :: '[' :: t => do
    match ← dottedKey fuel t with
    | (ks, ']' :: ']' :: t) => pure (.nextTable ks, t)
    | _ => none
  | '[' :: t => do
    match ← dottedKey fuel t with
    | (ks, ']' :: t) => pure (.table ks, t)
    | _ => none
  | t => entry fuel t

def statements : Nat → Text → Option (List Statement)
  | 0, _ => none
  | fuel + 1, t => do
    match ← gap false t with
    | [] => pure []
    | t =>
      let (s, t) ← statement (2 * fuel + 2) t
      let t ← lineEnd t
      (statements fuel t).map (s :: ·)

/-- The tables of a document so far, and the keys that lead to the one opened last. -/
structure Reading where
  root : Entries
  opened : List Text

namespace Reading

def step (r : Reading) : Statement → Option Reading
  | .entry ks d => (r.root.within (·.add true d ks) r.opened).map ({ r with root := · })
  | .table ks => opening ks Entries.declare
  | .nextTable ks => opening ks Entries.declareNext
where
  opening (ks : List Text) (f : Text → Entries → Option Entries) : Option Reading := do
    let last ← ks.getLast?
    let root ← r.root.within (f last) ks.dropLast
    pure ⟨root, ks⟩

end Reading

def parse (t : Text) : Option Data := do
  let t := match t with
    | '\ufeff' :: t => t
    | t => t
  let statements ← statements (t.length + 1) t
  let r ← statements.foldlM Reading.step ⟨[], []⟩
  pure (.map (entriesToData r.root))

end Toml

end PathRouting
