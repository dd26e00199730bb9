import Std.Data.HashMap
import PathRouting.Regex.Basic
import PathRouting.Regex.Utf8

/-! # The size of an expression

An expression is taken only if two automata over bytes are small enough: one that reads a match
forward and notes where groups start and end, and one that reads it backward.  A state takes 32
bytes, with 8 more for each range of bytes and 4 more for each way on without a byte.
-/

namespace PathRouting

namespace Regex

/-- What an automaton takes: its states, and the bytes beside those for the states. -/
structure Footprint where
  states : Nat
  extra : Nat

namespace Footprint

def limit : Nat := 10 * Nat.pow 2 20

def bytes (p : Footprint) : Nat := 32 * p.states + p.extra

def isOver (p : Footprint) : Bool := limit < p.bytes

def state (p : Footprint) (extra : Nat) : Footprint := ⟨p.states + 1, p.extra + extra⟩

def fork (p : Footprint) (ways : Nat) : Footprint := p.state (4 * ways)

/-- A part some times over, as long as the limit is not passed. -/
def times (part : Footprint → Footprint) : Nat → Footprint → Footprint
  | 0, p => p
  | n + 1, p => if p.isOver then p else times part n (part p)

def exactly (part : Footprint → Footprint) (n : Nat) (p : Footprint) : Footprint :=
  if n = 0 then p.state 0 else times part n p

def hash (ns : List Nat) : UInt64 :=
  ns.foldl (fun h n => (h ^^^ n.toUInt64) * 1099511628211) 14695981039346656037

/-- The states of a part that can be used again, each in the slot of its hash: what is in it, and
its number.  A later one takes the slot. -/
structure Shared where
  footprint : Footprint
  slots : Std.HashMap UInt64 (List Nat × Nat)

/-- The number of the state with some contents, a new one with `extra` bytes if its slot has no such
state. -/
def Shared.state (s : Shared) (slotCount : UInt64) (contents : List Nat) (extra : Nat) :
    Nat × Shared :=
  let slot := hash contents % slotCount
  match s.slots[slot]? with
  | some (c, number) => if c = contents then (number, s) else new slot
  | none => new slot
where
  new (slot : UInt64) : Nat × Shared :=
    let number := s.footprint.states
    (number, ⟨s.footprint.state extra, s.slots.insert slot (contents, number)⟩)

/-- The states of a trie of byte sequences that lead to `target`, shared where they lead on alike.
`depth` bounds the length of the sequences. -/
def trie (target : Nat) : Nat → List (List ByteRange) → Shared → Nat × Shared
  | 0, _, s => (target, s)
  | depth + 1, seqs, s =>
    let groups := seqs.splitBy fun q r => q.head? == r.head?
    let (edges, s) := groups.foldl (fun (edges, s) group =>
      match group with
      | (r :: _ :: _) :: _ =>
        let (next, s) := trie target depth (group.map List.tail) s
        ([next, r.2, r.1] ++ edges, s)
      | (r :: []) :: _ => ([target, r.2, r.1] ++ edges, s)
      | _ => (edges, s)) ([], s)
    s.state 10000 edges.reverse (8 * groups.length)

def setForward (p : Footprint) (s : CharSet) : Footprint :=
  let target := p.states
  (trie target 4 s.sequences ⟨p.state 0, ∅⟩).2.footprint

/-- The states for one character of a set, read backward: a chain for each byte sequence, from its
first byte, sharing what earlier ones have. -/
def setBackward (p : Footprint) (s : CharSet) : Footprint :=
  let target := p.states + 1
  let seqs := s.sequences
  let chain (s : Shared) (seq : List ByteRange) : Shared :=
    (seq.foldl (fun (from', s) r => s.state 1000 [from', r.1, r.2] 0) (target, s)).2
  (seqs.foldl chain ⟨(p.fork seqs.length).state 0, ∅⟩).footprint

/-- The parts between the empty texts, of which those at the front count once. -/
def partsBetweenEnds (words : List (List UInt8)) : List (List (List UInt8)) :=
  let rest := words.dropWhile List.isEmpty
  let parts := rest.foldr (fun w ps => if w = [] then [] :: ps else ps.modifyHead (w :: ·)) [[]]
  if rest.length < words.length then [] :: parts else parts

def byFirst (words : List (List UInt8)) : List (List (List UInt8)) :=
  (words.filterMap List.head?).eraseDups.map fun b =>
    words.filterMap fun w => if w.head? = some b then some w.tail else none

/-- The states of a trie of literals, in order of preference.  A node has a state for each part
between the literals that end there, and one that forks to these states and ends.  `depth` bounds
the length of the literals. -/
def literals : Nat → List (List UInt8) → Footprint → Footprint
  | 0, _, p => p
  | depth + 1, words, p =>
    let parts := (partsBetweenEnds words).map byFirst
    let p := parts.flatten.foldl (fun p after =>
      if after.all List.isEmpty then p else literals depth after p) p
    let ways := (parts.filter (· ≠ [])).map List.length
    let p := ways.foldl (fun p n => p.state (if n = 1 then 0 else 8 * n)) p
    p.fork (ways.length + parts.length - 1)

end Footprint

inductive Direction where
  | forward
  | backward

namespace Direction

def word (d : Direction) (t : Text) : List UInt8 :=
  let bytes := t.flatMap String.utf8EncodeChar
  match d with
  | .forward => bytes
  | .backward => bytes.reverse

/-- The states for one character of a set.  ASCII characters need no more than one. -/
def set (d : Direction) (s : CharSet) (p : Footprint) : Footprint :=
  if s.isAscii then (p.state 0).state (8 * s.ranges.length)
  else match d with
    | .forward => p.setForward s
    | .backward => p.setBackward s

def alternatives : List (Footprint → Footprint) → Footprint → Footprint
  | [], p => p
  | [part], p => part p
  | first :: second :: parts, p =>
    let p := ((second (first p)).fork (parts.length + 2)).state 0
    parts.foldl (fun p part => part p) p

/-- The states for a repetition of a part, which is known to take text or not. -/
def repetition (part : Footprint → Footprint) (takesText : Bool) (least : Nat) :
    Option Nat → Footprint → Footprint
  | some most, p =>
    if least = most then p.exactly part least
    else if least = 0 ∧ most = 1 then (part (p.fork 2)).state 0
    else
      ((p.exactly part least).state 0).times (fun p => part (p.fork 2)) (most - least)
  | none, p =>
    match least with
    | 0 => if takesText then part (p.fork 2) else (((part p).fork 2).fork 2).state 0
    | 1 => (part p).fork 2
    | least + 1 => (part (p.exactly part least)).fork 2

def branches (d : Direction) : Regex → List (Footprint → Footprint)
  | .empty => [(·.state 0)]
  | .literal t => [fun p => ⟨p.states + Text.byteLength t, p.extra⟩]
  | .oneOf s => [d.set s]
  | .anchor _ => [(·.state 0)]
  | .seq r s =>
    let (first, second) := (whole d r (branches d r), whole d s (branches d s))
    match d with
    | .forward => [fun p => second (first p)]
    | .backward => [fun p => first (second p)]
  | .alt r s => whole d r (branches d r) :: branches d s
  | .times r least most _ => [repetition (whole d r (branches d r)) r.takesText least most]
  | .group _ r =>
    match d with
    | .forward => [fun p => (whole d r (branches d r) (p.state 0)).state 0]
    | .backward => [whole d r (branches d r)]
where
  /-- The states for an expression, from those for its alternatives. -/
  whole (d : Direction) (r : Regex) (parts : List (Footprint → Footprint)) :
      Footprint → Footprint :=
    match r.branches.mapM literal? with
    | some (t :: u :: ts) =>
      let words := (t :: u :: ts).map d.word
      Footprint.literals ((words.map List.length).foldl max 0 + 1) words
    | _ => alternatives parts

/-- The states of an automaton for an expression: at the start those that skip what comes before a
match, unless none can, and at the end the one that accepts. -/
def footprint (d : Direction) (r : Regex) : Footprint :=
  let skip (isFixed : Bool) : Footprint :=
    let start : Footprint := ⟨0, 0⟩
    if isFixed then start.state 0 else ((start.fork 2).state 0).state 8
  let part := branches.whole d r (branches d r)
  match d with
  | .forward => ((part ((skip r.startsText).state 0)).state 0).state 0
  | .backward => (part (skip r.endsText)).state 0

end Direction

def isSmall (r : Regex) : Bool :=
  !(Direction.forward.footprint r).isOver && !(Direction.backward.footprint r).isOver

end Regex

end PathRouting
