import PathRouting.Proofs.Lookup.Search
import PathRouting.Proofs.Tree.Batch
import PathRouting.Proofs.Tree.Validators

/-! # The order of registration

Whether a route accepts a path depends on which other routes there are, but not on their order.  The
order decides which of them answers, and nothing else.
-/

namespace PathRouting

variable {ε : Type}

/-- Two answers are both matches, both say that nothing was found, or both that the path is
malformed. -/
inductive Outcome.SameKind : Outcome ε → Outcome ε → Prop
  | matched (m m' : Match ε) : SameKind (.matched m) (.matched m')
  | notFound : SameKind .notFound .notFound
  | malformed (path : Text) : SameKind (.malformed path) (.malformed path)

namespace Tree

open Routes

variable [Endpoint ε] {t t' : Tree ε} {calls calls' : List (Route ε)}

theorem Sound.lookup_sameKind (ht : t.Sound) (ht' : t'.Sound)
    (hroutes : ∀ r, r ∈ t.routes ↔ r ∈ t'.routes) (hregistry : t.registry = t'.registry)
    (hselector : t.selector = t'.selector) (method : Method) (path : Text) :
    (t.lookup method path).SameKind (t'.lookup method path) := by
  cases hs : Path.segments path with
  | none =>
    rw [lookup_of_malformed hs, lookup_of_malformed hs]
    exact .malformed path
  | some s =>
    have hsight : t.sight method path s = t'.sight method path s := by
      rw [sight, sight, hregistry, hselector]
    have hno := ht'.lookup_cases method hs
    rw [← hsight] at hno
    rcases ht.lookup_cases method hs with ⟨r, bs, rest, hc, he⟩ | ⟨he, hnone⟩ <;>
      rcases hno with ⟨r', bs', rest', hc', he'⟩ | ⟨he', hnone'⟩ <;> rw [he, he']
    · exact .matched _ _
    · exact absurd (hc.accepts.anti fun r hr => (hroutes r).2 hr)
        (hnone' r ((hroutes r).1 hc.mem) bs rest)
    · exact absurd (hc'.accepts.anti fun r hr => (hroutes r).1 hr)
        (hnone r' ((hroutes r').2 hc'.mem) bs' rest')
    · exact .notFound

/-- The order of the calls decides which route answers.  It does not decide whether all of them
succeed, whether some route answers, or which validators are missing. -/
theorem addAll_perm (h : calls.Perm calls') (registry : Registry) (selector : Text) :
    ((∃ t, (empty registry selector).addAll calls = .ok t) ↔
        ∃ t', (empty registry selector).addAll calls' = .ok t') ∧
      ∀ t t', (empty registry selector).addAll calls = .ok t →
        (empty registry selector).addAll calls' = .ok t' →
        (∀ method path, (t.lookup method path).SameKind (t'.lookup method path)) ∧
          t.missingValidators = t'.missingValidators := by
  have hempty : (empty registry selector : Tree ε).Reachable := .empty registry selector
  constructor
  · rw [hempty.exists_addAll, hempty.exists_addAll]
    exact ⟨fun ha => ha.perm h, fun ha => ha.perm h.symm⟩
  · intro t t' hall hall'
    have ht := (hempty.addAll hall).sound
    have ht' := (hempty.addAll hall').sound
    obtain ⟨root, rfl⟩ := addAll_eq_ok hall
    obtain ⟨root', rfl⟩ := addAll_eq_ok hall'
    have hroutes : ∀ r, r ∈ (empty registry selector).routes ++ calls ↔
        r ∈ (empty registry selector).routes ++ calls' := fun r => h.mem_iff
    exact ⟨ht.lookup_sameKind ht' hroutes rfl rfl, ht.missingValidators_eq ht' hroutes rfl⟩

/-- Pages by number can be registered before pages by name or after them.  Either way page 7 is
found, but not by the same route. -/
theorem pages_in_either_order :
    let numbered : Route Controller := ⟨"/page/<id:int>".toList, .of "numbered".toList⟩
    let named : Route Controller := ⟨"/page/<name>".toList, .of "named".toList⟩
    let start : Tree Controller := empty .builtIn usualSelector
    [numbered, named].Perm [named, numbered] ∧
      ∃ t t', start.addAll [numbered, named] = .ok t ∧ start.addAll [named, numbered] = .ok t' ∧
        (t.lookup .get "/page/7".toList).SameKind (t'.lookup .get "/page/7".toList) ∧
        t.lookup .get "/page/7".toList ≠ t'.lookup .get "/page/7".toList := by
  intro numbered named start
  have hperm : [numbered, named].Perm [named, numbered] := .swap named numbered []
  obtain ⟨t, hall⟩ : ∃ t, start.addAll [numbered, named] = .ok t :=
    exists_eq_ok (by decide +kernel)
  obtain ⟨hsucceeds, hagree⟩ := addAll_perm hperm .builtIn usualSelector
  obtain ⟨t', hall'⟩ := hsucceeds.1 ⟨t, hall⟩
  have hdiffer : (start.addAll [numbered, named]).toOption.map (·.lookup .get "/page/7".toList) ≠
      (start.addAll [named, numbered]).toOption.map (·.lookup .get "/page/7".toList) := by
    decide +kernel
  rw [hall, hall'] at hdiffer
  exact ⟨hperm, t, t', hall, hall', (hagree t t' hall hall').1 .get "/page/7".toList,
    fun he => hdiffer (congrArg some he)⟩

end Tree

end PathRouting
