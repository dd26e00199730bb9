import PathRouting.Proofs.Regex.Anchored

/-! # Leftmost matches

An automaton goes through the places of a text from the left and takes what it prefers at the first
that has a match.  So it does all that engines are documented to do.
-/

namespace PathRouting

namespace Regex

/-! ## The places of a text -/

namespace Place

def between (front back : Text) : Place := ⟨front.length, front.getLast?, back⟩

theorem findSome?_onward {β : Type} {f : Place → Option β} {b : β} {front back : Text} :
    (between front back).onward.findSome? f = some b ↔
      ∃ mid rest, back = mid ++ rest ∧ f (between (front ++ mid) rest) = some b ∧
        ∀ mid' rest', back = mid' ++ rest' → mid'.length < mid.length →
          f (between (front ++ mid') rest') = none := by
  induction back generalizing front with
  | nil =>
    have honward : (between front []).onward = [between front []] := rfl
    rw [honward, List.findSome?_singleton]
    constructor
    · intro h
      refine ⟨[], [], rfl, by rwa [List.append_nil], fun mid' rest' _ hlt => ?_⟩
      exact absurd hlt (Nat.not_lt_zero _)
    · rintro ⟨mid, rest, hback, hf, -⟩
      obtain ⟨rfl, rfl⟩ := List.append_eq_nil_iff.1 hback.symm
      rwa [List.append_nil] at hf
  | cons c back ih =>
    have honward : (between front (c :: back)).onward =
        between front (c :: back) :: (between (front ++ [c]) back).onward := by
      simp [onward, onward.go, between]
    rw [honward, List.findSome?_cons]
    cases hfront : f (between front (c :: back)) with
    | some b' =>
      constructor
      · intro h
        refine ⟨[], c :: back, rfl, by rwa [List.append_nil, hfront], fun _ _ _ hlt => ?_⟩
        exact absurd hlt (Nat.not_lt_zero _)
      · rintro ⟨mid, rest, hback, hf, hfirst⟩
        cases mid with
        | nil =>
          rw [List.append_nil, ← List.nil_append rest, ← hback, hfront] at hf
          exact hf
        | cons d mid =>
          have hnone := hfirst [] (c :: back) rfl (Nat.zero_lt_succ _)
          rw [List.append_nil, hfront] at hnone
          cases hnone
    | none =>
      rw [ih]
      constructor
      · rintro ⟨mid, rest, rfl, hf, hfirst⟩
        refine ⟨c :: mid, rest, rfl, by rwa [List.append_cons], fun mid' rest' hback hlt => ?_⟩
        cases mid' with
        | nil => rwa [List.append_nil, ← List.nil_append rest', ← hback]
        | cons d mid' =>
          obtain ⟨rfl, hmore⟩ := List.cons.inj hback
          rw [List.append_cons]
          exact hfirst mid' rest' hmore (Nat.lt_of_succ_lt_succ hlt)
      · rintro ⟨mid, rest, hback, hf, hfirst⟩
        cases mid with
        | nil =>
          rw [List.append_nil, ← List.nil_append rest, ← hback, hfront] at hf
          cases hf
        | cons d mid =>
          obtain ⟨rfl, hmore⟩ := List.cons.inj hback
          refine ⟨mid, rest, hmore, by rwa [← List.append_cons], fun mid' rest' hback' hlt => ?_⟩
          rw [← List.append_cons]
          exact hfirst (c :: mid') rest' (congrArg _ hback') (Nat.succ_lt_succ hlt)

end Place

namespace Automaton

variable {a : Automaton} {t front back matched : Text} {found : Found}

/-- The preferred match between two parts of a text. -/
def prefers? (a : Automaton) (front back : Text) : Option Text :=
  (a.run front.length front.getLast? none [a.start] back).map fun stop =>
    back.take (stop - front.length)

theorem prefers?_within (h : a.prefers? front back = some matched) : matched <+: back := by
  obtain ⟨stop, -, rfl⟩ := Option.map_eq_some_iff.1 h
  exact List.take_prefix _ _

theorem found_between (a : Automaton) (front back : Text) :
    ((a.run front.length front.getLast? none [a.start] back).map fun stop =>
      (⟨(front ++ back).take front.length, ((front ++ back).take stop).drop front.length,
        (front ++ back).drop stop⟩ : Found)) =
      (a.prefers? front back).map fun matched => ⟨front, matched, back.drop matched.length⟩ := by
  rw [prefers?, Option.map_map]
  cases hrun : a.run front.length front.getLast? none [a.start] back with
  | none => rfl
  | some stop =>
    rcases run_eq_some hrun with hnone | hle
    · cases hnone
    obtain ⟨n, rfl⟩ := Nat.exists_eq_add_of_le hle
    have htake : (front ++ back).take (front.length + n) = front ++ back.take n :=
      List.take_length_add_append n
    have hdrop : (front ++ back).drop (front.length + n) = back.drop n :=
      List.drop_length_add_append n
    have hlength := congrArg (List.drop (back.take n).length) (List.take_append_drop n back)
    rw [List.drop_left] at hlength
    simp only [Option.map_some, Function.comp_apply, List.take_left, htake, hdrop, List.drop_left,
      Nat.add_sub_cancel_left, ← hlength]

/-- What is found is what is preferred at the first place where anything is. -/
theorem find?_iff : a.find? t = some found ↔ Engine.Leftmost prefers? a t found := by
  have hplace {front back : Text} (ht : t = front ++ back) :
      (a.run front.length front.getLast? none [a.start] back).map (fun stop =>
        (⟨t.take front.length, (t.take stop).drop front.length, t.drop stop⟩ : Found)) =
        (a.prefers? front back).map fun matched => ⟨front, matched, back.drop matched.length⟩ := by
    rw [ht]
    exact a.found_between front back
  have hstart : Place.start t = Place.between [] t := rfl
  rw [find?, hstart, Place.findSome?_onward]
  constructor
  · rintro ⟨front, back, rfl, hfound, hfirst⟩
    rw [List.nil_append] at hfound
    obtain ⟨matched, hmatched, rfl⟩ := Option.map_eq_some_iff.1 ((hplace rfl).symm.trans hfound)
    obtain ⟨after, rfl⟩ := prefers?_within hmatched
    rw [List.drop_left]
    refine ⟨rfl, hmatched, fun front' back' ht hlt => ?_⟩
    have hnone := hfirst front' back' ht hlt
    exact Option.map_eq_none_iff.1 ((hplace ht).symm.trans hnone)
  · rintro ⟨ht, hmatched, hfirst⟩
    refine ⟨found.before, found.matched ++ found.after, ht, ?_, fun front back hsplit hlt => ?_⟩
    · refine (hplace ht).trans ?_
      rw [hmatched, Option.map_some, List.drop_left]
    · refine (hplace hsplit).trans ?_
      rw [hfirst front back hsplit hlt]
      rfl

theorem prefers?_anchor (a : Automaton) (front back : Text) :
    a.anchor.prefers? front back = if front = [] then a.prefers? [] back else none := by
  rw [prefers?]
  split
  · rename_i hfront
    rw [hfront]
    exact congrArg _ run_anchor_start
  · rename_i hfront
    rw [List.getLast?_eq_getLast_of_ne_nil hfront, run_anchor_later]
    rfl

end Automaton

/-- What engines are documented to do. -/
theorem leftmostFirst : Engine.LeftmostFirst Automaton.prefers? where
  within := Automaton.prefers?_within
  leftmost := Automaton.find?_iff
  grouped {expression a a'} ha ha' := by
    obtain ⟨r, hr, ha⟩ := Option.bind_eq_some_iff.1 ha
    obtain ⟨r', hr', ha'⟩ := Option.bind_eq_some_iff.1 ha'
    split at ha
    · split at ha'
      · cases ha
        cases ha'
        rw [parse_anchored hr hr', Automaton.ofRegex_anchored]
        exact Automaton.prefers?_anchor _
      · cases ha'
    · cases ha

end Regex

end PathRouting
