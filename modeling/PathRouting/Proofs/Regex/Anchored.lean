import Mathlib.Data.Finset.Card
import PathRouting.Proofs.Engine
import PathRouting.Proofs.Regex.Wrapped
import PathRouting.Regex.Match

/-! # Matches of wrapped expressions

The automaton of a wrapped expression is that of the expression with a test for the start of the
text in front.  At the start the two go through the same states, and nothing can be reached
anywhere else.
-/

namespace PathRouting

namespace Regex

variable {r : Regex} {rs : List Regex} {next : Nat}

/-! ## The automaton of a wrapped expression -/

namespace Automaton

/-- The automaton behind a test for the start of the text. -/
def anchor (a : Automaton) : Automaton where
  states := a.states.push (.look .textStart a.start)
  start := a.states.size

theorem build_items (r : Regex) (next : Nat) : (items r).foldrM build next = build r next := by
  induction r generalizing next with
  | empty => rfl
  | seq r s _ ih => rw [items, List.foldrM_cons, ih, build]
  | _ => simp [items]

theorem build_joinLiterals (rs : List Regex) (next : Nat) :
    (joinLiterals rs).foldrM build next = rs.foldrM build next := by
  induction rs generalizing next with
  | nil => rfl
  | cons r rs ih =>
    rw [List.foldrM_cons, ← ih, joinLiterals.eq_def]
    dsimp only
    split
    · rename_i s t rest hrest
      simp [hrest, build]
    · rw [List.foldrM_cons]

theorem build_lean (r : Regex) (rs : List Regex) (next : Nat) :
    build (sequence.lean r rs) next = (r :: rs).foldrM build next := by
  induction rs generalizing r with
  | nil => simp [sequence.lean]
  | cons s rs ih => simp only [sequence.lean, build, ih, List.foldrM_cons]

/-- A sequence is built from its last part to its first. -/
theorem build_sequence (rs : List Regex) (next : Nat) :
    build (sequence rs) next = rs.foldrM build next := by
  have hitems : (joinLiterals (rs.flatMap items)).foldrM build next = rs.foldrM build next := by
    rw [build_joinLiterals]
    induction rs generalizing next with
    | nil => rfl
    | cons r rs ih =>
      rw [List.flatMap_cons, List.foldrM_append, List.foldrM_cons, ih]
      simp only [build_items]
  rw [← hitems, sequence]
  cases joinLiterals (rs.flatMap items) with
  | nil => rfl
  | cons r rs => exact build_lean r rs next

theorem ofRegex_anchored (r : Regex) :
    ofRegex (sequence [.anchor .textStart, r]) = (ofRegex r).anchor := by
  rw [ofRegex, build_sequence]
  rfl

/-! ## States behind the test -/

variable {a : Automaton} {p : Place} {seen seen' : Std.HashSet Nat} {pending : List Nat}
  {steps : Array (CharSet × Nat)} {fuel fuel' n : Nat}

def unseen (a : Automaton) (seen : Std.HashSet Nat) : Finset Nat :=
  (Finset.range a.states.size).filter fun n => seen.contains n = false

theorem card_unseen_insert_lt (hn : n < a.states.size) (hnew : seen.contains n = false) :
    (a.unseen (seen.insert n)).card < (a.unseen seen).card := by
  apply Finset.card_lt_card
  refine Finset.ssubset_iff_of_subset (fun k hk => ?_) |>.2 ⟨n, ?_, ?_⟩
  · simp only [unseen, Finset.mem_filter, Std.HashSet.contains_insert, Bool.or_eq_false_iff] at hk ⊢
    exact ⟨hk.1, hk.2.2⟩
  · rw [unseen, Finset.mem_filter, Finset.mem_range]
    exact ⟨hn, hnew⟩
  · simp [unseen]

theorem card_unseen_le (a : Automaton) (seen : Std.HashSet Nat) :
    (a.unseen seen).card ≤ a.states.size :=
  (Finset.card_filter_le _ _).trans_eq (Finset.card_range _)

theorem unseen_congr (h : ∀ k < a.states.size, seen'.contains k = seen.contains k) :
    a.unseen seen' = a.unseen seen := by
  apply Finset.filter_congr
  intro k hk
  rw [h k (Finset.mem_range.1 hk)]

theorem close_of_seen (h : seen.contains n = true) :
    a.close p (fuel + 1) seen (n :: pending) steps = a.close p fuel seen pending steps := by
  rw [close, if_pos h]

theorem close_of_new (h : seen.contains n = false) :
    a.close p (fuel + 1) seen (n :: pending) steps =
      match a.states[n]? with
      | none => a.close p fuel (seen.insert n) pending steps
      | some .accept => ⟨steps, true⟩
      | some (.step s next) => a.close p fuel (seen.insert n) pending (steps.push (s, next))
      | some (.look c next) => a.close p fuel (seen.insert n)
          (if p.satisfies c then next :: pending else pending) steps
      | some (.fork first second) =>
        a.close p fuel (seen.insert n) (first :: second :: pending) steps := by
  rw [close, h]
  exact if_neg Bool.false_ne_true

/-- A state from which nothing is reached counts as visited from then on. -/
theorem close_of_dead (h : seen.contains n = true ∨ a.states[n]? = none ∨
      ∃ c next, a.states[n]? = some (.look c next) ∧ p.satisfies c = false) :
    ∃ seen', (∀ k, seen'.contains k = (n == k || seen.contains k)) ∧
      a.close p (fuel + 1) seen (n :: pending) steps = a.close p fuel seen' pending steps := by
  cases hn : seen.contains n with
  | true =>
    refine ⟨seen, fun k => ?_, close_of_seen hn⟩
    by_cases hk : n = k
    · rw [← hk, hn, Bool.or_true]
    · rw [beq_false_of_ne hk, Bool.false_or]
  | false =>
    refine ⟨seen.insert n, fun k => Std.HashSet.contains_insert, ?_⟩
    rw [close_of_new hn]
    rcases h with h | h | ⟨c, next, h, hc⟩
    · rw [hn] at h
      cases h
    · rw [h]
    · rw [h]
      dsimp only
      rw [hc, if_neg Bool.false_ne_true]

theorem size_anchor (a : Automaton) : a.anchor.states.size = a.states.size + 1 :=
  Array.size_push _

theorem anchor_states (a : Automaton) (n : Nat) : a.anchor.states[n]? =
    if n = a.states.size then some (.look .textStart a.start) else a.states[n]? :=
  Array.getElem?_push

theorem anchor_dead (hn : a.states.size ≤ n)
    (htest : seen.contains a.states.size = true ∨ p.satisfies .textStart = false) :
    seen.contains n = true ∨ a.anchor.states[n]? = none ∨
      ∃ c next, a.anchor.states[n]? = some (.look c next) ∧ p.satisfies c = false := by
  rw [anchor_states]
  split
  · rename_i hlast
    rw [hlast]
    exact htest.imp_right fun hfails => .inr ⟨_, _, rfl, hfails⟩
  · exact .inr (.inl (Array.getElem?_eq_none hn))

/-- A visit takes a state from the pending ones and puts two there at most, if it is a new one; so
the fuel lasts while it is more than what is pending and twice what is new. -/
theorem close_anchor
    (hseen : ∀ k < a.states.size, seen'.contains k = seen.contains k)
    (htest : seen'.contains a.states.size = true ∨ p.satisfies .textStart = false)
    (hfuel : pending.length + 2 * (a.unseen seen).card < fuel)
    (hfuel' : pending.length + 2 * (a.unseen seen).card < fuel') :
    a.anchor.close p fuel' seen' pending steps = a.close p fuel seen pending steps := by
  induction fuel generalizing fuel' seen seen' pending steps with
  | zero => exact absurd hfuel (Nat.not_lt_zero _)
  | succ fuel ih =>
    obtain ⟨fuel', rfl⟩ : ∃ k, fuel' = k + 1 := ⟨fuel' - 1, by omega⟩
    cases pending with
    | nil => rw [close, close]
    | cons n pending =>
      rw [List.length_cons] at hfuel hfuel'
      by_cases hn : n < a.states.size
      · cases hnew : seen.contains n with
        | true =>
          rw [close_of_seen hnew, close_of_seen ((hseen n hn).trans hnew)]
          exact ih hseen htest (by omega) (by omega)
        | false =>
          have hless := card_unseen_insert_lt hn hnew
          have hinsert : ∀ k < a.states.size,
              (seen'.insert n).contains k = (seen.insert n).contains k := by
            intro k hk
            rw [Std.HashSet.contains_insert, Std.HashSet.contains_insert, hseen k hk]
          have htest : (seen'.insert n).contains a.states.size = true ∨
              p.satisfies .textStart = false := by
            rw [Std.HashSet.contains_insert]
            exact htest.imp_left fun h => by rw [h, Bool.or_true]
          have hstate : a.anchor.states[n]? = some a.states[n] := by
            rw [anchor_states, if_neg (Nat.ne_of_lt hn), Array.getElem?_eq_getElem hn]
          rw [close_of_new hnew, close_of_new ((hseen n hn).trans hnew), hstate,
            Array.getElem?_eq_getElem hn]
          cases a.states[n] with
          | accept => rfl
          | step set next => exact ih hinsert htest (by omega) (by omega)
          | look c next =>
            dsimp only
            split <;> refine ih hinsert htest ?_ ?_ <;> grind
          | fork first second => refine ih hinsert htest ?_ ?_ <;> grind
      · have hsize := Nat.le_of_not_lt hn
        obtain ⟨visited, hvisited, hclose⟩ :=
          close_of_dead (.inr (.inl (Array.getElem?_eq_none hsize)))
        obtain ⟨visited', hvisited', hclose'⟩ := close_of_dead (anchor_dead hsize htest)
        have hsame : ∀ k < a.states.size, visited.contains k = seen.contains k := by
          intro k hk
          rw [hvisited, beq_false_of_ne (by omega), Bool.false_or]
        have hsame' : ∀ k < a.states.size, visited'.contains k = visited.contains k := by
          intro k hk
          rw [hvisited', hvisited, hseen k hk]
        rw [hclose, hclose']
        refine ih hsame' (htest.imp_left fun h => ?_) ?_ ?_
        · rw [hvisited', h, Bool.or_true]
        · rw [unseen_congr hsame]
          omega
        · rw [unseen_congr hsame]
          omega

/-! ## Runs behind the test -/

variable {states : List Nat} {offset : Nat} {best : Option Nat} {t : Text} {c : Char}

/-- After the start of a text the test makes no difference to the other states. -/
theorem reach_anchor (hp : p.before ≠ none) :
    a.anchor.reach p states = a.reach p states := by
  have hcard := a.card_unseen_le ∅
  have hfails : p.satisfies .textStart = false :=
    Option.isNone_eq_false_iff.2 (Option.isSome_iff_ne_none.2 hp)
  rw [reach, reach, size_anchor]
  exact close_anchor (fun _ _ => rfl) (.inr hfails) (by omega) (by omega)

theorem reach_anchor_start (hp : p.before = none) :
    a.anchor.reach p [a.anchor.start] = a.reach p [a.start] := by
  have hcard := a.card_unseen_le ∅
  have hholds : p.satisfies .textStart = true := Option.isNone_iff_eq_none.2 hp
  have hseen : ∀ k < a.states.size,
      ((∅ : Std.HashSet Nat).insert a.states.size).contains k = (∅ : Std.HashSet Nat).contains k := by
    intro k hk
    rw [Std.HashSet.contains_insert, beq_false_of_ne (by omega), Bool.false_or]
  rw [reach, reach, size_anchor, close_of_new Std.HashSet.contains_empty, anchor_states, anchor,
    if_pos rfl]
  dsimp only
  rw [hholds, if_pos rfl]
  refine close_anchor hseen (.inl Std.HashSet.contains_insert_self) ?_ ?_ <;>
    rw [List.length_singleton] <;> omega

theorem reach_anchor_later (hp : p.before ≠ none) :
    a.anchor.reach p [a.anchor.start] = ⟨#[], false⟩ := by
  have hfails : p.satisfies .textStart = false :=
    Option.isNone_eq_false_iff.2 (Option.isSome_iff_ne_none.2 hp)
  rw [reach, close_of_new Std.HashSet.contains_empty, anchor_states, anchor, if_pos rfl]
  dsimp only
  rw [hfails, if_neg Bool.false_ne_true, List.length_singleton, close]

theorem run_anchor : a.anchor.run offset (some c) best states t =
    a.run offset (some c) best states t := by
  induction t generalizing offset c best states with
  | nil => rw [run, run, reach_anchor (by simp)]
  | cons d t ih => simp only [run, reach_anchor (p := ⟨_, some c, _⟩) (by simp), ih]

theorem run_anchor_start : a.anchor.run offset none best [a.anchor.start] t =
    a.run offset none best [a.start] t := by
  cases t with
  | nil => rw [run, run, reach_anchor_start rfl]
  | cons d t => simp only [run, reach_anchor_start (p := ⟨_, none, _⟩) rfl, run_anchor]

theorem run_anchor_later : a.anchor.run offset (some c) none [a.anchor.start] t = none := by
  cases t with
  | nil =>
    rw [run, reach_anchor_later (by simp)]
    rfl
  | cons d t =>
    rw [run]
    dsimp only
    rw [reach_anchor_later (by simp)]
    rfl

end Automaton

end Regex

end PathRouting
