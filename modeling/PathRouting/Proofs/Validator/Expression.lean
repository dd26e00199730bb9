import PathRouting.Proofs.Regex.Leftmost

/-! # What the validators of expressions take

The bounds of a rule are put to the match, but what is taken runs from the start of the text.  The
two are the same where the match begins there, as every match of an expression does that closes no
group but its own.  An expression that closes the group it is wrapped in can leave the anchor to the
alternatives before.
-/

namespace PathRouting

namespace Validator

section

variable [Engine] {e : Engine.Expression} {rule : Rule} {t : Text}

/-- What a validator takes is the match, which begins where the text does and has a length within
bounds, or nothing, where there is no match to take. -/
inductive Honoured (e : Engine.Expression) (rule : Rule) (t : Text) : Text → Prop
  | nothing (h : ∀ found, Engine.find? e t = some found →
      found.matched = [] ∨ found.matched.length < rule.least ∨ rule.most < found.matched.length) :
    Honoured e rule t []
  | found {taken after : Text} (find : Engine.find? e t = some ⟨[], taken, after⟩)
      (text : t = taken ++ after) (ne_nil : taken ≠ []) (least : rule.least ≤ taken.length)
      (most : taken.length ≤ rule.most) :
    Honoured e rule t taken

theorem matching_of_none (hfind : Engine.find? e t = none) : matching e rule t = [] := by
  rw [matching, hfind]

theorem matching_of_find {found : Found} (hfind : Engine.find? e t = some found) :
    matching e rule t =
      if found.matched ≠ [] ∧ rule.least ≤ found.matched.length ∧ found.matched.length ≤ rule.most
      then found.before ++ found.matched else [] := by
  rw [matching, hfind]
  simp [Rule.admits]

/-- A rule is honoured on a text just if the match, where it has a length to take, begins at the
start. -/
theorem honoured_iff : Honoured e rule t (matching e rule t) ↔
    ∀ found, Engine.find? e t = some found → found.matched ≠ [] →
      rule.least ≤ found.matched.length → found.matched.length ≤ rule.most → found.before = [] := by
  constructor
  · intro h found hfind hne hleast hmost
    rw [matching_of_find hfind, if_pos ⟨hne, hleast, hmost⟩] at h
    generalize htaken : found.before ++ found.matched = taken at h
    cases h with
    | nothing => exact absurd (List.append_eq_nil_iff.1 htaken).2 hne
    | found hfind' =>
      cases hfind.symm.trans hfind'
      rfl
  · intro h
    cases hfind : Engine.find? e t with
    | none =>
      rw [matching_of_none hfind]
      refine .nothing fun found hfound => ?_
      cases hfind.symm.trans hfound
    | some found =>
      rw [matching_of_find hfind]
      split
      · rename_i hwithin
        obtain ⟨hne, hleast, hmost⟩ := hwithin
        have hbefore := h found hfind hne hleast hmost
        have htext := Engine.slice hfind
        obtain ⟨before, matched, after⟩ := found
        dsimp only at hbefore
        subst hbefore
        exact .found hfind htext hne hleast hmost
      · rename_i hwithin
        refine .nothing fun found' hfound => ?_
        cases hfind.symm.trans hfound
        by_contra hout
        push Not at hout
        exact hwithin hout

/-- The validator of an accepted expression honours every rule just if no match that a rule can
admit begins after the start of the text.  So it does for an expression that is one by itself, of
which it takes what that one prefers at the start. -/
theorem expression_honoured {prefers? : Engine.Expression → Text → Text → Option Text}
    (documented : Engine.LeftmostFirst prefers?) {registry registry' : Registry}
    {name expression : Text} (h : registry.addExpression? name expression = some registry') :
    ∃ e, Engine.compile? (anchored expression) = some e ∧
      registry'.get? name = some (matching e) ∧
      ((∀ rule t, rule.least ≤ rule.most → rule.most ≤ Rule.largestLength →
          Honoured e rule t (matching e rule t)) ↔
        ∀ t found, Engine.find? e t = some found → found.matched ≠ [] →
          found.matched.length ≤ Rule.largestLength → found.before = []) ∧
      ∀ alone, Engine.compile? expression = some alone → ∀ rule t,
        Honoured e rule t (matching e rule t) ∧
          matching e rule t = ((prefers? alone [] t).filter fun matched =>
            matched != [] && rule.admits matched.length).getD [] := by
  obtain ⟨e, he, rfl⟩ := Option.map_eq_some_iff.1 h
  refine ⟨e, he, by simp, ?_, fun alone halone rule t => ?_⟩
  · constructor
    · intro hall t found hfind hne hmost
      have hpos := List.length_pos_iff.2 hne
      exact honoured_iff.1 (hall (.of []) t (by decide) (Nat.le_refl _)) found hfind hne hpos hmost
    · intro hall rule t _ hmost
      refine honoured_iff.2 fun found hfind hne _ hle => ?_
      exact hall t found hfind hne (Nat.le_trans hle hmost)
  · have hfound := documented.find?_anchored halone he t
    constructor
    · refine honoured_iff.2 fun found hfind _ _ _ => ?_
      rw [hfound] at hfind
      obtain ⟨matched, -, rfl⟩ := Option.map_eq_some_iff.1 hfind
      rfl
    · rw [matching, hfound]
      cases prefers? alone [] t with
      | none => rfl
      | some matched =>
        rw [Option.map_some, Option.filter_some]
        by_cases hwithin : (matched != [] && rule.admits matched.length) = true
        · rw [if_pos hwithin]
          exact if_pos hwithin
        · rw [if_neg hwithin]
          exact if_neg hwithin

end

/-- A number or the letter `x`, an expression by itself. -/
theorem number_or_x_honoured : Engine.LeftmostFirst Regex.Automaton.prefers? ∧
    ∃ registry', Registry.addExpression? ∅ "part".toList "[0-9]+|x".toList = some registry' ∧
      ∃ e, Engine.compile? (anchored "[0-9]+|x".toList) = some e ∧
        registry'.get? "part".toList = some (matching e) ∧
        ∀ rule t, Honoured e rule t (matching e rule t) := by
  have hcompile : (Engine.compile? (anchored "[0-9]+|x".toList)).isSome := by decide +kernel
  have halone : (Engine.compile? "[0-9]+|x".toList).isSome := by decide +kernel
  obtain ⟨e, he⟩ := Option.isSome_iff_exists.1 hcompile
  obtain ⟨alone, halone⟩ := Option.isSome_iff_exists.1 halone
  have hadd : Registry.addExpression? ∅ "part".toList "[0-9]+|x".toList =
      some (Dictionary.insert ∅ "part".toList (matching e)) := by
    rw [Registry.addExpression?, he]
    rfl
  obtain ⟨e', he', hget, -, hhonoured⟩ := expression_honoured Regex.leftmostFirst hadd
  exact ⟨Regex.leftmostFirst, _, hadd, e', he', hget, fun rule t =>
    (hhonoured alone halone rule t).1⟩

/-- It closes the group that it is put into, and its second alternative is not anchored. -/
def loose : Text := "a)|(?:b".toList

/-- The automaton of the loose expression in its group. -/
def looseAutomaton : Regex.Automaton where
  states := #[.accept, .step (.one 'a') 0, .look .textStart 1, .step (.one 'b') 0, .fork 2 3]
  start := 4

theorem compile_loose : Regex.compile? (anchored loose) = some looseAutomaton := by
  have hparse : Regex.parse (anchored loose) =
      some (.alt (.seq (.anchor .textStart) (.literal ['a'])) (.literal ['b'])) := by
    decide +kernel
  rw [Regex.compile?, hparse, Option.bind_some, if_pos (by decide +kernel)]
  rfl

theorem find_loose : looseAutomaton.find? "xb".toList = some ⟨"x".toList, "b".toList, []⟩ := by
  simp [looseAutomaton, Regex.Automaton.find?, Regex.Place.start, Regex.Place.onward,
    Regex.Place.onward.go, Regex.Automaton.run, Regex.Automaton.reach, Regex.Automaton.close,
    Regex.Place.satisfies, Regex.CharSet.one, Regex.CharSet.has, Regex.CharSet.within]

/-- Where `b` is found in `xb`, the validator takes two characters for a rule that asks for one. -/
theorem closed_group_unanchored :
    (∀ [Engine] (e : Engine.Expression) (registry : Registry),
      Engine.compile? (anchored loose) = some e →
      Engine.find? e "xb".toList = some ⟨"x".toList, "b".toList, []⟩ →
      ∃ registry', registry.addExpression? "part".toList loose = some registry' ∧
        registry'.get? "part".toList = some (matching e) ∧
        matching e ((Rule.of "part".toList).withLengths 1 1) "xb".toList = "xb".toList ∧
        ¬Honoured e ((Rule.of "part".toList).withLengths 1 1) "xb".toList
          (matching e ((Rule.of "part".toList).withLengths 1 1) "xb".toList)) ∧
    Engine.LeftmostFirst Regex.Automaton.prefers? ∧
    ∃ e, Engine.compile? (anchored loose) = some e ∧
      Engine.find? e "xb".toList = some ⟨"x".toList, "b".toList, []⟩ := by
  refine ⟨?_, Regex.leftmostFirst, looseAutomaton, compile_loose, find_loose⟩
  intro _ e registry he hfind
  refine ⟨registry.insert "part".toList (matching e), ?_, by simp, ?_, fun h => ?_⟩
  · rw [Registry.addExpression?, he]
    rfl
  · rw [matching_of_find hfind]
    rfl
  · have hbefore := honoured_iff.1 h _ hfind (by decide) (by decide) (by decide)
    exact absurd hbefore (by decide)

end Validator

end PathRouting
