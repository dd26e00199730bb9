import PathRouting.Regex.Escape

/-! # Character classes

The classes between square brackets: ranges, named ASCII classes, nested classes, and the operators
`&&`, `--` and `~~`.
-/

namespace PathRouting

namespace Regex

namespace CharClass

def ascii? (name : Text) : Option CharSet :=
  let named (n : String) := name = n.toList
  let ranges (rs : List (Char × Char)) : Option CharSet :=
    some ⟨rs.map fun r => (r.1.toNat, r.2.toNat)⟩
  if named "alnum" then ranges [('0', '9'), ('A', 'Z'), ('a', 'z')]
  else if named "alpha" then ranges [('A', 'Z'), ('a', 'z')]
  else if named "ascii" then ranges [('\x00', '\x7f')]
  else if named "blank" then ranges [('\t', '\t'), (' ', ' ')]
  else if named "cntrl" then ranges [('\x00', '\x1f'), ('\x7f', '\x7f')]
  else if named "digit" then ranges [('0', '9')]
  else if named "graph" then ranges [('!', '~')]
  else if named "lower" then ranges [('a', 'z')]
  else if named "print" then ranges [(' ', '~')]
  else if named "punct" then ranges [('!', '/'), (':', '@'), ('[', '\x60'), ('\x7b', '~')]
  else if named "space" then ranges [('\t', '\r'), (' ', ' ')]
  else if named "upper" then ranges [('A', 'Z')]
  else if named "word" then some .asciiWord
  else if named "xdigit" then ranges [('0', '9'), ('A', 'F'), ('a', 'f')]
  else none

/-- The name of an ASCII class such as `[:alpha:]` or `[:^alpha:]`, after its opening bracket: its
set, and whether it is negated. -/
def named? (t : Text) : Option ((CharSet × Bool) × Text) := do
  let inner ← Text.dropPrefix? t [':']
  let (negated, inner) := match inner with
    | '^' :: inner => (true, inner)
    | inner => (false, inner)
  let (name, after) ← Text.cut? ':' inner
  let after ← Text.dropPrefix? after [']']
  pure ((← ascii? name, negated), after)

structure Nested where
  set : CharSet
  depth : Nat

inductive Operator where
  | inter
  | diff
  | symmDiff

def Operator.apply : Operator → CharSet → CharSet → CharSet
  | .inter, s, t => s.inter t
  | .diff, s, t => s.diff t
  | .symmDiff, s, t => s.symmDiff t

/-- A class so far: what is left of the last operator, and the items since, the latest first. -/
structure Draft where
  left : Option (Nested × Operator)
  items : List Nested

namespace Draft

def start : Draft := ⟨none, []⟩

def add (d : Draft) (n : Nested) : Draft := { d with items := n :: d.items }

/-- The items since the last operator as one.  Several of them are a level of their own. -/
def union (d : Draft) : Nested :=
  let set := CharSet.ofRanges (d.items.flatMap (·.set.ranges))
  let depth := (d.items.map (·.depth)).foldl max 0
  ⟨set, if d.items.length > 1 then depth + 1 else depth⟩

/-- What has been read.  An operator is a level of its own. -/
def close (f : Flags) (d : Draft) : Nested :=
  let items := d.union
  let set := f.fold items.set
  match d.left with
  | none => ⟨set, items.depth⟩
  | some (left, op) => ⟨op.apply left.set set, max left.depth items.depth + 1⟩

def operate (f : Flags) (d : Draft) (op : Operator) : Draft := ⟨some (d.close f, op), []⟩

end Draft

def choose? (f : Flags) (negated : Bool) (s : CharSet) : Option CharSet :=
  f.admit? (if negated then s.compl else s)

def item (f : Flags) : Text → Option ((Char ⊕ CharSet) × Text)
  | [] => none
  | '\\' :: t => do
    match ← Escape.read f t with
    | (.char c, after) => pure (.inl c, after)
    | (.set s, after) => pure (.inr s, after)
    | (.anchor _, _) => none
  | c :: t => some (.inl c, t)

def itemOrRange (f : Flags) (t : Text) : Option (CharSet × Text) := do
  let (first, after) ← item f t
  let after := f.skip after
  let single ← f.admit? (match first with
    | .inl c => .one c
    | .inr s => s)
  match after with
  | [] => none
  | '-' :: after' =>
    match f.skip after' with
    | [] => none
    | ']' :: _ => pure (single, after)
    | '-' :: _ => pure (single, after)
    | after =>
      match first, ← item f after with
      | .inl a, (.inl b, after) =>
        if a ≤ b then pure (← f.admit? (.range a b), after) else none
      | _, _ => none
  | after => pure (single, after)

/-- Hyphens at the front of a class, which stand for themselves. -/
def hyphens (f : Flags) (d : Draft) (t : Text) : Draft × Text :=
  match _h : f.next? t with
  | some ('-', rest) => hyphens f (d.add ⟨.one '-', 0⟩) rest
  | _ => (d, t)
termination_by t.length
decreasing_by exact Flags.length_lt_of_next? _h

/-- The start of a class after its bracket: whether it is negated, and the hyphens, or else the
closing bracket, that stand for themselves there. -/
def opening (f : Flags) (t : Text) : Bool × Draft × Text :=
  let (negated, t) := match f.skip t with
    | '^' :: t => (true, t)
    | t => (false, t)
  let (d, t) := hyphens f .start t
  match d.items, f.skip t with
  | [], ']' :: t => (negated, d.add ⟨.one ']', 0⟩, t)
  | _, t => (negated, d, t)

def deepest : Nat := 250

/-- The items of a class up to its closing bracket; `around` is the number of brackets around
them. -/
def items (f : Flags) : Nat → Nat → Draft → Text → Option (Nested × Text)
  | 0, _, _, _ => none
  | fuel + 1, around, d, t =>
    match f.skip t with
    | [] => none
    | ']' :: t => some (d.close f, t)
    | '[' :: t =>
      match named? t with
      | some ((s, negated), after) => do
        let s ← choose? f negated (f.fold s)
        items f fuel around (d.add ⟨s, 0⟩) after
      | none => do
        if around ≥ deepest then none
        let (negated, inner, t) := opening f t
        let (n, after) ← items f fuel (around + 1) inner t
        let s ← choose? f negated n.set
        items f fuel around (d.add ⟨s, n.depth + 1⟩) after
    | '&' :: '&' :: t => items f fuel around (d.operate f .inter) t
    | '-' :: '-' :: t => items f fuel around (d.operate f .diff) t
    | '~' :: '~' :: t => items f fuel around (d.operate f .symmDiff) t
    | t => do
      let (s, after) ← itemOrRange f t
      items f fuel around (d.add ⟨s, 0⟩) after

def read (f : Flags) (t : Text) : Option (Nested × Text) := do
  let (negated, d, t) := opening f t
  let (n, after) ← items f (t.length + 1) 1 d t
  pure (⟨← choose? f negated n.set, n.depth + 1⟩, after)

end CharClass

end Regex

end PathRouting
