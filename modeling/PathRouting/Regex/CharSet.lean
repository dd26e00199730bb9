import PathRouting.Text.Blank
import PathRouting.Text.Case
import PathRouting.Text.Digit
import PathRouting.Text.Word

/-! # Sets of characters

A set is the list of its ranges of codes, in ascending order, none of which overlaps or follows at
once on the one before.  Surrogates are no characters, so a range may run across them and what
follows on U+D7FF is U+E000.
-/

namespace PathRouting

namespace Regex

structure CharSet where
  ranges : List (Nat × Nat)
  deriving DecidableEq

namespace CharSet

def lastCode : Nat := 0x10ffff

def next (code : Nat) : Nat := if code = 0xd7ff then 0xe000 else code + 1

def previous (code : Nat) : Nat := if code = 0xe000 then 0xd7ff else code - 1

def within (code : Nat) : List (Nat × Nat) → Bool
  | [] => false
  | (a, b) :: rs => a ≤ code && (code ≤ b || within code rs)

def has (s : CharSet) (c : Char) : Bool := within c.toNat s.ranges

/-- Join a range with the ranges that overlap it or follow on it at once. -/
def join : Nat × Nat → List (Nat × Nat) → List (Nat × Nat)
  | r, [] => [r]
  | (a, b), (c, d) :: rs => if c ≤ b + 1 then join (a, max b d) rs else (a, b) :: join (c, d) rs

def ofRanges (rs : List (Nat × Nat)) : CharSet :=
  match rs.mergeSort fun r s => r.1 ≤ s.1 with
  | [] => ⟨[]⟩
  | r :: rs => ⟨join r rs⟩

def empty : CharSet := ⟨[]⟩

def one (c : Char) : CharSet := ⟨[(c.toNat, c.toNat)]⟩

def range (a b : Char) : CharSet := ⟨[(a.toNat, b.toNat)]⟩

def union (s t : CharSet) : CharSet := ofRanges (s.ranges ++ t.ranges)

def meet : List (Nat × Nat) → List (Nat × Nat) → List (Nat × Nat)
  | [], _ => []
  | _, [] => []
  | (a, b) :: rs, (c, d) :: ss =>
    let rest := if b < d then meet rs ((c, d) :: ss) else meet ((a, b) :: rs) ss
    if max a c ≤ min b d then (max a c, min b d) :: rest else rest
termination_by rs ss => rs.length + ss.length

def inter (s t : CharSet) : CharSet := ⟨meet s.ranges t.ranges⟩

/-- The ends of the gaps after `code`; a gap with nothing in it ends before it starts. -/
def gapsAfter (code : Nat) : List (Nat × Nat) → List (Nat × Nat)
  | [] => if code < lastCode then [(next code, lastCode)] else []
  | (a, b) :: rs => (next code, previous a) :: gapsAfter b rs

def gaps (s : CharSet) : List (Nat × Nat) :=
  match s.ranges with
  | [] => [(0, lastCode)]
  | (a, b) :: rs => if a = 0 then gapsAfter b rs else (0, previous a) :: gapsAfter b rs

/-- The characters in the gaps.  The ends of a gap are put in order, so the empty one between U+D7FF
and U+E000 counts as these two. -/
def compl (s : CharSet) : CharSet := ⟨s.gaps.map fun g => (min g.1 g.2, max g.1 g.2)⟩

def diff (s t : CharSet) : CharSet := ⟨meet s.ranges (t.gaps.filter fun g => g.1 ≤ g.2)⟩

def symmDiff (s t : CharSet) : CharSet := (s.union t).diff (s.inter t)

def folded (s : CharSet) : CharSet :=
  let pairs := Text.casePairs
  let foldings := pairs.filterMap fun (c, d) => if within c s.ranges then some (d, d) else none
  let s := ofRanges (s.ranges ++ foldings)
  ofRanges (s.ranges ++
    pairs.filterMap fun (c, d) => if within d s.ranges then some (c, c) else none)

def foldedAscii (s : CharSet) : CharSet :=
  let shifted (a b : Nat) (shift : Nat → Nat) :=
    (s.inter ⟨[(a, b)]⟩).ranges.map fun r => (shift r.1, shift r.2)
  ofRanges (s.ranges ++ shifted 0x41 0x5a (· + 32) ++ shifted 0x61 0x7a (· - 32))

def isAscii (s : CharSet) : Bool := s.ranges.all (·.2 < 0x80)

def single? (s : CharSet) : Option Char :=
  match s.ranges with
  | [(a, b)] => if a = b then Text.char? a else none
  | _ => none

def digit : CharSet := ofRanges (Text.zeros.map fun z => (z, z + 9))

def word : CharSet := ⟨Text.wordRanges⟩

def blank : CharSet := ⟨Text.blankRanges⟩

def asciiDigit : CharSet := ⟨[(0x30, 0x39)]⟩

def asciiWord : CharSet := ⟨[(0x30, 0x39), (0x41, 0x5a), (0x5f, 0x5f), (0x61, 0x7a)]⟩

def asciiBlank : CharSet := ⟨[(0x9, 0xd), (0x20, 0x20)]⟩

end CharSet

end Regex

end PathRouting
