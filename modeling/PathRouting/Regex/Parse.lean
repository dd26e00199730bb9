import PathRouting.Regex.CharClass
import PathRouting.Text.Letter

/-! # Reading regular expressions

Alternatives of sequences of repeated items.  Flags hold from where they stand to the end of their
group, for the alternatives that follow too.  Sequences, alternatives, repetitions, groups and
classes are levels, and there is a limit to how deep they may be nested.
-/

namespace PathRouting

namespace Regex

/-- What is known while reading: the flags that hold, and the names and the number of the groups so
far. -/
structure Context where
  flags : Flags
  names : List Text
  groups : Nat

structure Draft where
  regex : Regex
  depth : Nat

namespace Draft

def nothing : Draft := ⟨.empty, 0⟩

/-- One level above some others; a single one is left as it is. -/
def above (make : List Regex → Regex) : List Draft → Draft
  | [] => nothing
  | [d] => d
  | ds => ⟨make (ds.map (·.regex)), (ds.map (·.depth)).foldl max 0 + 1⟩

end Draft

def largestCount : Nat := 4294967295

/-- The digits of a count, after those in `ds`, the latest first. -/
def countDigits (f : Flags) (ds : Text) (t : Text) : Text × Text :=
  match _h : f.next? t with
  | some (c, rest) => if c.isDigit then countDigits f (c :: ds) rest else (ds.reverse, f.skip t)
  | none => (ds.reverse, [])
termination_by t.length
decreasing_by exact Flags.length_lt_of_next? _h

def count? (f : Flags) (t : Text) : Option (Nat × Text) :=
  let (digits, after) := countDigits f [] ((f.skip t).dropWhile Text.isBlank)
  let n := Text.decimalValue digits
  if digits = [] ∨ n > largestCount then none
  else some (n, f.skip (after.dropWhile Text.isBlank))

def bounds? (f : Flags) (t : Text) : Option ((Nat × Option Nat) × Text) := do
  let (least, t) ← count? f t
  match t with
  | '\x7d' :: t => pure ((least, some least), t)
  | ',' :: t =>
    match f.skip t with
    | '\x7d' :: t => pure ((least, none), t)
    | t =>
      let (most, t) ← count? f t
      match t with
      | '\x7d' :: t => if least ≤ most then pure ((least, some most), t) else none
      | _ => none
  | _ => none

/-- The bounds of a repetition operator at the front, and whether there is one. -/
def operator? (f : Flags) : Text → Option (Option ((Nat × Option Nat) × Text))
  | '*' :: t => some (some ((0, none), t))
  | '+' :: t => some (some ((1, none), t))
  | '?' :: t => some (some ((0, some 1), t))
  | '\x7b' :: t => (bounds? f t).map fun (bounds, t) => some (bounds, f.skip t)
  | _ => some none

def isGroupName : Text → Bool
  | [] => false
  | c :: t =>
    (c == '_' || Text.isLetter c) &&
      t.all fun c => "_.[]".toList.contains c || Text.isLetterOrNumber c

/-- The start of a group after its parenthesis: a group with its number, if it has one, and the
context inside, or flags alone, for the rest of the enclosing group. -/
inductive Opening where
  | group (number? : Option Nat) (inner : Context) (t : Text)
  | flags (flags : Flags) (t : Text)

def numbered (x : Context) (t : Text) : Opening :=
  .group (some (x.groups + 1)) { x with groups := x.groups + 1 } t

def groupName (x : Context) (t : Text) : Option Opening := do
  let (name, after) ← Text.cut? '>' t
  if isGroupName name && !x.names.contains name then
    pure (numbered { x with names := name :: x.names } after)
  else none

def opening (x : Context) (t : Text) : Option Opening :=
  match x.flags.skip t with
  | '?' :: '=' :: _ => none
  | '?' :: '!' :: _ => none
  | '?' :: '<' :: '=' :: _ => none
  | '?' :: '<' :: '!' :: _ => none
  | '?' :: 'P' :: '<' :: t => groupName x t
  | '?' :: '<' :: t => groupName x t
  | '?' :: t => do
    let (flags, used, t) ← x.flags.read [] true t
    match t with
    | ':' :: t => pure (.group none { x with flags } t)
    | ')' :: t => if used = [] then none else pure (.flags flags t)
    | _ => none
  | t => some (numbered x t)

def atom (f : Flags) : Text → Option (Draft × Text)
  | [] => none
  | '.' :: t => f.dot?.map fun s => (⟨ofSet s, 0⟩, t)
  | '^' :: t => some (⟨.anchor f.lineStart, 0⟩, t)
  | '$' :: t => some (⟨.anchor f.lineEnd, 0⟩, t)
  | '[' :: t => (CharClass.read f t).map fun (n, t) => (⟨ofSet n.set, n.depth⟩, t)
  | '\\' :: t => do
    match ← Escape.read f t with
    | (.char c, t) => pure (⟨f.literal c, 0⟩, t)
    | (.set s, t) => pure (⟨ofSet s, 0⟩, t)
    | (.anchor a, t) => pure (⟨.anchor a, 0⟩, t)
  | c :: t => some (⟨f.literal c, 0⟩, t)

mutual

/-- Alternatives up to a closing parenthesis or the end.  `around` is the number of groups around
them, and `done` holds the alternatives before, the latest first. -/
def branchesOf : Nat → Nat → Context → List Draft → Text → Option (Draft × Context × Text)
  | 0, _, _, _, _ => none
  | fuel + 1, around, x, done, t => do
    let (d, x, t) ← itemsOf fuel around x [] none t
    match t with
    | '|' :: t => branchesOf fuel around x (d :: done) t
    | t => pure (.above alternatives (d :: done).reverse, x, t)

/-- The items of a sequence.  `last` is the item that a repetition operator would apply to, and
`done` the ones before it, the latest first. -/
def itemsOf : Nat → Nat → Context → List Draft → Option Draft → Text →
    Option (Draft × Context × Text)
  | 0, _, _, _, _, _ => none
  | fuel + 1, around, x, done, last, t => do
    let t := x.flags.skip t
    let all := last.toList ++ done
    let finish (t : Text) := pure (Draft.above sequence all.reverse, x, t)
    match t with
    | [] => finish []
    | '|' :: t => finish ('|' :: t)
    | ')' :: t => finish (')' :: t)
    | '(' :: t =>
      match ← opening x t with
      | .flags flags t => itemsOf fuel around { x with flags } (.nothing :: all) none t
      | .group number? inner t =>
        if around ≥ CharClass.deepest then none
        let (d, inner, t) ← branchesOf fuel (around + 1) inner [] t
        match t with
        | ')' :: t =>
          let r := number?.elim d.regex (Regex.group · d.regex)
          itemsOf fuel around { inner with flags := x.flags } all (some ⟨r, d.depth + 1⟩) t
        | _ => none
    | t =>
      match ← operator? x.flags t with
      | some ((least, most), t) =>
        let d ← last
        let (greedy, t) := match t with
          | '?' :: t => (false, t)
          | t => (true, t)
        let r := repeated d.regex least most (greedy != x.flags.swapGreed)
        itemsOf fuel around x done (some ⟨r, d.depth + 1⟩) t
      | none =>
        let (d, t) ← atom x.flags t
        itemsOf fuel around x all (some d) t

end

def parse (t : Text) : Option Regex := do
  let (d, _, after) ← branchesOf (2 * t.length + 2) 0 ⟨.off, [], 0⟩ [] t
  if after = [] ∧ d.depth ≤ CharClass.deepest then pure d.regex else none

end Regex

end PathRouting
