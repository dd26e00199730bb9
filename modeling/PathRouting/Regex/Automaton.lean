import PathRouting.Regex.Parse
import PathRouting.Regex.Footprint

/-! # Automata

An expression becomes a list of states that prefer one way to another.  States are numbered, and
each part of an expression is built before the parts in front of it, so that it knows where it leads.
-/

namespace PathRouting

namespace Regex

inductive State where
  /-- Take a character of a set. -/
  | step (set : CharSet) (next : Nat)
  /-- Go on where a condition holds. -/
  | look (a : Anchor) (next : Nat)
  /-- Go on in two ways, the first preferred. -/
  | fork (first second : Nat)
  | accept

structure Automaton where
  states : Array State
  start : Nat

namespace Automaton

def add (s : State) : StateM (Array State) Nat := fun states => (states.size, states.push s)

def put (number : Nat) (s : State) : StateM (Array State) Unit :=
  modify fun states => states.setIfInBounds number s

/-- A state that prefers one more round to what comes next, or the other way round. -/
def choice (greedy : Bool) (round next : Nat) : State :=
  if greedy then .fork round next else .fork next round

/-- A part some times over, built from the last time to the first.  `part` takes where it leads to
where it starts. -/
def copies (part : Nat → StateM (Array State) Nat) : Nat → Nat → StateM (Array State) Nat
  | 0, next => pure next
  | n + 1, next => do copies part n (← part next)

def atMost (part : Nat → StateM (Array State) Nat) (greedy : Bool) (next : Nat) :
    Nat → Nat → StateM (Array State) Nat
  | 0, start => pure start
  | n + 1, start => do
    let round ← part start
    atMost part greedy next n (← add (choice greedy round next))

/-- A part once or more: where it starts, and the state after each round. -/
def loop (part : Nat → StateM (Array State) Nat) (greedy : Bool) (next : Nat) :
    StateM (Array State) (Nat × Nat) := do
  let after ← add .accept
  let round ← part after
  put after (choice greedy round next)
  pure (round, after)

/-- A part any number of times.  After a part that always takes text the state before the first
round is the one after each round; else it has to be a state of its own, so that an empty round
does not cut off what comes after it. -/
def anyNumber (part : Nat → StateM (Array State) Nat) (takesText greedy : Bool) (next : Nat) :
    StateM (Array State) Nat := do
  let (round, after) ← loop part greedy next
  if takesText then pure after else add (choice greedy round next)

/-- The states of an expression before those that `next` starts: where they start. -/
def build : Regex → Nat → StateM (Array State) Nat
  | .empty, next => pure next
  | .literal t, next => t.foldrM (fun c next => add (.step (.one c) next)) next
  | .oneOf s, next => add (.step s next)
  | .anchor a, next => add (.look a next)
  | .seq r s, next => do build r (← build s next)
  | .alt r s, next => do
    let first ← build r next
    let second ← build s next
    add (.fork first second)
  | .times r least (some most) greedy, next => do
    copies (build r) least (← atMost (build r) greedy next (most - least) next)
  | .times r 0 none greedy, next => anyNumber (build r) r.takesText greedy next
  | .times r (least + 1) none greedy, next => do
    copies (build r) least (← loop (build r) greedy next).1
  | .group _ r, next => build r next

def ofRegex (r : Regex) : Automaton :=
  let (start, states) := Id.run ((build r 0).run #[.accept])
  ⟨states, start⟩

end Automaton

def compile? (t : Text) : Option Automaton :=
  (parse t).bind fun r => if r.isSmall then some (Automaton.ofRegex r) else none

end Regex

end PathRouting
