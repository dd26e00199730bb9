import PathRouting.Validator.Expression

/-! # Engines as documented

Between any two parts of a text an expression prefers one match, or has none there.  What is found
in a text is the preferred match at the first place that has one.  In a group after a start anchor
an expression matches at the start of a text only, and there what it matches alone.
-/

namespace PathRouting

namespace Engine

variable [Engine] {prefers? : Expression → Text → Text → Option Text} {e e' : Expression}
  {expression t : Text} {found : Found}

/-- A preferred match, where none begins before it. -/
structure Leftmost (prefers? : Expression → Text → Text → Option Text) (e : Expression) (t : Text)
    (found : Found) : Prop where
  text : t = found.before ++ (found.matched ++ found.after)
  preferred : prefers? e found.before (found.matched ++ found.after) = some found.matched
  first : ∀ front back, t = front ++ back → front.length < found.before.length →
    prefers? e front back = none

structure LeftmostFirst (prefers? : Expression → Text → Text → Option Text) : Prop where
  within : ∀ {e front back matched}, prefers? e front back = some matched → matched <+: back
  leftmost : ∀ {e t found}, find? e t = some found ↔ Leftmost prefers? e t found
  grouped : ∀ {expression e e'}, compile? expression = some e →
    compile? (Validator.anchored expression) = some e' → ∀ front back,
      prefers? e' front back = if front = [] then prefers? e [] back else none

/-- What an expression in a group after a start anchor finds is what it prefers alone at the
start. -/
theorem LeftmostFirst.find?_anchored (h : LeftmostFirst prefers?)
    (he : compile? expression = some e)
    (he' : compile? (Validator.anchored expression) = some e') (t : Text) :
    find? e' t = (prefers? e [] t).map fun matched => ⟨[], matched, t.drop matched.length⟩ := by
  have hgrouped := h.grouped he he'
  cases hprefers : prefers? e [] t with
  | some matched =>
    obtain ⟨after, rfl⟩ := h.within hprefers
    rw [Option.map_some, List.drop_left]
    refine h.leftmost.2 ⟨rfl, ?_, fun front _ _ hlt => absurd hlt (Nat.not_lt_zero _)⟩
    rw [hgrouped, if_pos rfl, hprefers]
  | none =>
    refine Option.eq_none_iff_forall_ne_some.2 fun found hfound => ?_
    obtain ⟨htext, hpreferred, -⟩ := h.leftmost.1 hfound
    rw [hgrouped] at hpreferred
    split at hpreferred
    · rename_i hbefore
      rw [hbefore, List.nil_append] at htext
      rw [← htext, hprefers] at hpreferred
      cases hpreferred
    · cases hpreferred

end Engine

end PathRouting
