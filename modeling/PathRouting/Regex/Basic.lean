import PathRouting.Regex.CharSet

/-! # Regular expressions

Expressions are kept in a normal form, in which the parser builds them.  A sequence leans to the
right, has no empty items and no literals side by side; alternatives lean to the right too; a set of
one character is a literal.
-/

namespace PathRouting

namespace Regex

inductive Boundary where
  | edge
  | noEdge
  | wordStart
  | wordEnd
  | halfStart
  | halfEnd
  deriving DecidableEq

/-- A condition on a place in a text.  A carriage return counts as the end of a line if `crlf`, and
only ASCII letters, digits and `_` make words if `ascii`. -/
inductive Anchor where
  | textStart
  | textEnd
  | lineStart (crlf : Bool)
  | lineEnd (crlf : Bool)
  | boundary (b : Boundary) (ascii : Bool)
  deriving DecidableEq

end Regex

inductive Regex where
  | empty
  | literal (t : Text)
  | oneOf (set : Regex.CharSet)
  | anchor (a : Regex.Anchor)
  | seq (r s : Regex)
  | alt (r s : Regex)
  /-- From `least` to `most` times, as often as possible if greedy and else as seldom. -/
  | times (r : Regex) (least : Nat) (most : Option Nat) (greedy : Bool)
  /-- The group of a number, no two groups having the same. -/
  | group (number : Nat) (r : Regex)
  deriving DecidableEq

namespace Regex

def size : Regex → Nat
  | .seq r s => size r + size s + 1
  | .alt r s => size r + size s + 1
  | .times r _ _ _ => size r + 1
  | .group _ r => size r + 1
  | _ => 1

/-- A lower bound on the number of characters of a match; absent if there may be none.  An empty set
makes it absent for all that it is a part of. -/
def minLength? : Regex → Option Nat
  | .empty => some 0
  | .literal t => some t.length
  | .oneOf s => if s.ranges = [] then none else some 1
  | .anchor _ => some 0
  | .seq r s => do pure ((← minLength? r) + (← minLength? s))
  | .alt r s => do pure (min (← minLength? r) (← minLength? s))
  | .times r least _ _ => (minLength? r).map (· * least)
  | .group _ r => minLength? r

def maxLength? : Regex → Option Nat
  | .empty => some 0
  | .literal t => some t.length
  | .oneOf s => if s.ranges = [] then none else some 1
  | .anchor _ => some 0
  | .seq r s => do pure ((← maxLength? r) + (← maxLength? s))
  | .alt r s => do pure (max (← maxLength? r) (← maxLength? s))
  | .times r _ most _ => do pure ((← maxLength? r) * (← most))
  | .group _ r => maxLength? r

/-- Whether every match is known to take text. -/
def takesText (r : Regex) : Bool := r.minLength?.any (0 < ·)

def takesNoText (r : Regex) : Bool := r.maxLength? = some 0

def startsText : Regex → Bool
  | .anchor a => a = .textStart
  | .seq r s => startsText r || (r.takesNoText && startsText s)
  | .alt r s => startsText r && startsText s
  | .times r least _ _ => 0 < least && startsText r
  | .group _ r => startsText r
  | _ => false

def endsText : Regex → Bool
  | .anchor a => a = .textEnd
  | .seq r s => endsText s || (s.takesNoText && endsText r)
  | .alt r s => endsText r && endsText s
  | .times r least _ _ => 0 < least && endsText r
  | .group _ r => endsText r
  | _ => false

def items : Regex → List Regex
  | .empty => []
  | .seq r s => r :: items s
  | r => [r]

def branches : Regex → List Regex
  | .alt r s => r :: branches s
  | r => [r]

def literal? : Regex → Option Text
  | .literal t => some t
  | _ => none

def set? : Regex → Option CharSet
  | .oneOf s => some s
  | _ => none

def char? : Regex → Option Char
  | .literal [c] => some c
  | _ => none

def ofSet (s : CharSet) : Regex :=
  match s.single? with
  | some c => .literal [c]
  | none => .oneOf s

def joinLiterals : List Regex → List Regex
  | [] => []
  | r :: rs =>
    match r, joinLiterals rs with
    | .literal s, .literal t :: rest => .literal (s ++ t) :: rest
    | r, rest => r :: rest

def sequence (rs : List Regex) : Regex :=
  match joinLiterals (rs.flatMap items) with
  | [] => .empty
  | r :: rest => lean r rest
where
  lean (r : Regex) : List Regex → Regex
    | [] => r
    | s :: rest => .seq r (lean s rest)

def common : List Regex → List Regex → List Regex
  | r :: rs, s :: ss => if r = s then r :: common rs ss else []
  | _, _ => []

/-- The items that all of some sequences start with; none if one of them is no sequence. -/
def commonItems : List Regex → List Regex
  | [] => []
  | r :: rs =>
    if (r :: rs).all (·.items.length > 1) then rs.foldl (fun c s => common c s.items) r.items
    else []

/-- The alternatives in order of preference.  Single characters make a set and so do sets, and what
all alternatives start with comes first, once.  `fuel` bounds how often that happens. -/
def alternativesWithin : Nat → List Regex → Regex
  | 0, rs => lean rs
  | fuel + 1, rs =>
    let rs := rs.flatMap branches
    match rs with
    | [r] => r
    | rs =>
      match rs.mapM char?, rs.mapM set?, commonItems rs with
      | some cs, _, _ => ofSet (.ofRanges (cs.map fun c => (c.toNat, c.toNat)))
      | none, some ss, _ => ofSet (.ofRanges (ss.flatMap (·.ranges)))
      | none, none, [] => lean rs
      | none, none, shared =>
        let rests := rs.map fun r => sequence (r.items.drop shared.length)
        sequence (shared ++ [alternativesWithin fuel rests])
where
  lean : List Regex → Regex
    | [] => .oneOf .empty
    | [r] => r
    | r :: rs => .alt r (lean rs)

def alternatives (rs : List Regex) : Regex :=
  alternativesWithin ((rs.head?.elim 0 size) + 1) rs

/-- An expression a number of times.  More than one round of one that takes no text says nothing
more. -/
def repeated (r : Regex) (least : Nat) (most : Option Nat) (greedy : Bool) : Regex :=
  let (least, most) :=
    if r.takesNoText then (min least 1, some ((most.getD 1).min 1)) else (least, most)
  if most = some 0 then .empty
  else if least = 1 ∧ most = some 1 then r
  else .times r least most greedy

end Regex

end PathRouting
