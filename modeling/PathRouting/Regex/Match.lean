import Std.Data.HashSet
import PathRouting.Engine
import PathRouting.Regex.Automaton

/-! # Matching

A place in a text knows the character before it and the text after it.  An automaton goes through
the text with a list of states, the preferred ones first and each once.  The match in a text begins
as far left as one can, and ends where the most preferred of the states that accept does.
-/

namespace PathRouting

namespace Regex

structure Place where
  offset : Nat
  before : Option Char
  after : Text
  deriving DecidableEq

namespace Place

def start (t : Text) : Place := ⟨0, none, t⟩

def isWord (ascii : Bool) (c : Char) : Bool :=
  (if ascii then CharSet.asciiWord else .word).has c

def satisfiesBoundary (p : Place) (ascii : Bool) : Boundary → Bool :=
  let before := p.before.any (isWord ascii)
  let after := p.after.head?.any (isWord ascii)
  fun
  | .edge => before != after
  | .noEdge => before == after
  | .wordStart => !before && after
  | .wordEnd => before && !after
  | .halfStart => !before
  | .halfEnd => !after

def satisfies (p : Place) : Anchor → Bool
  | .textStart => p.before.isNone
  | .textEnd => p.after.isEmpty
  | .lineStart false => p.before.all (· == '\n')
  | .lineEnd false => p.after.head?.all (· == '\n')
  | .lineStart true => p.before.all fun c => c == '\n' || (c == '\r' && p.after.head? != some '\n')
  | .lineEnd true =>
    p.after.head?.all fun c => c == '\r' || (c == '\n' && p.before != some '\r')
  | .boundary b ascii => p.satisfiesBoundary ascii b

def onward (p : Place) : List Place := go p.offset p.before p.after
where
  go (offset : Nat) (before : Option Char) : Text → List Place
    | [] => [⟨offset, before, []⟩]
    | c :: t => ⟨offset, before, c :: t⟩ :: go (offset + 1) (some c) t

end Place

namespace Automaton

structure Reached where
  /-- What takes a character and where it leads, the preferred ones first. -/
  steps : Array (CharSet × Nat)
  /-- Whether a state accepts; the steps are then those preferred to it. -/
  accepts : Bool

/-- Go on from the states in `pending` without taking a character.  States in `seen` are not
visited again, and `fuel` bounds the number of visits. -/
def close (a : Automaton) (p : Place) :
    Nat → Std.HashSet Nat → List Nat → Array (CharSet × Nat) → Reached
  | 0, _, _, steps => ⟨steps, false⟩
  | _ + 1, _, [], steps => ⟨steps, false⟩
  | fuel + 1, seen, n :: pending, steps =>
    if seen.contains n then close a p fuel seen pending steps
    else
      let seen := seen.insert n
      match a.states[n]? with
      | none => close a p fuel seen pending steps
      | some .accept => ⟨steps, true⟩
      | some (.step s next) => close a p fuel seen pending (steps.push (s, next))
      | some (.look c next) =>
        close a p fuel seen (if p.satisfies c then next :: pending else pending) steps
      | some (.fork first second) => close a p fuel seen (first :: second :: pending) steps

/-- The states that can be reached from some states at a place.  A visit adds one state to those
pending at most, and only once for each state. -/
def reach (a : Automaton) (p : Place) (states : List Nat) : Reached :=
  close a p (2 * a.states.size + states.length + 1) ∅ states #[]

/-- Where the preferred match from `states` ends; `best` is where a less preferred one does. -/
def run (a : Automaton) (offset : Nat) (before : Option Char) (best : Option Nat)
    (states : List Nat) : Text → Option Nat
  | [] =>
    if (a.reach ⟨offset, before, []⟩ states).accepts then some offset else best
  | c :: t =>
    let reached := a.reach ⟨offset, before, c :: t⟩ states
    let best := if reached.accepts then some offset else best
    if reached.steps.isEmpty then best
    else
      let states := reached.steps.toList.filterMap fun (s, next) =>
        if s.has c then some next else none
      run a (offset + 1) (some c) best states t

def find? (a : Automaton) (t : Text) : Option Found :=
  (Place.start t).onward.findSome? fun p =>
    (a.run p.offset p.before none [a.start] p.after).map fun stop =>
      ⟨t.take p.offset, (t.take stop).drop p.offset, t.drop stop⟩

variable {a : Automaton} {t : Text} {offset stop : Nat} {best : Option Nat}

theorem best_eq_some {accepts : Bool} (h : (if accepts then some offset else best) = some stop) :
    best = some stop ∨ offset ≤ stop := by
  split at h
  · cases h
    exact .inr (Nat.le_refl _)
  · exact .inl h

/-- A run ends where a less preferred one did, or from its start on. -/
theorem run_eq_some {before : Option Char} {states : List Nat}
    (h : a.run offset before best states t = some stop) : best = some stop ∨ offset ≤ stop := by
  induction t generalizing offset before best states with
  | nil => exact best_eq_some h
  | cons c t ih =>
    rw [run] at h
    dsimp only at h
    split at h
    · exact best_eq_some h
    · rcases ih h with hb | hle
      · exact best_eq_some hb
      · exact .inr (Nat.le_of_succ_le hle)

theorem find?_eq_some {found : Found} (h : a.find? t = some found) :
    t = found.before ++ found.matched ++ found.after := by
  unfold find? at h
  obtain ⟨p, hp, h⟩ := List.exists_of_findSome?_eq_some h
  obtain ⟨stop, hrun, rfl⟩ := Option.map_eq_some_iff.1 h
  rcases run_eq_some hrun with hb | hle
  · cases hb
  · have hbefore : (t.take stop).take p.offset = t.take p.offset := by
      rw [List.take_take, Nat.min_eq_left hle]
    dsimp only
    rw [← hbefore, List.take_append_drop, List.take_append_drop]

end Automaton

instance engine : Engine where
  Expression := Automaton
  compile? := compile?
  find? := Automaton.find?
  slice := Automaton.find?_eq_some

end Regex

end PathRouting
