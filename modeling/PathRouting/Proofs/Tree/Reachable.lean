import PathRouting.Proofs.Tree.Graft
import PathRouting.Tree.Basic

/-! # Reachable trees

A tree is reached from an empty one by registering routes, some of which may be rejected, and by
changing the validators and the selector.  The nodes of such a tree are grown from its routes.
-/

namespace PathRouting

namespace Tree

variable {ε : Type}

/-- Register a route if nothing speaks against it. -/
def attempt (t : Tree ε) (r : Route ε) : Tree ε :=
  match t.add r.pattern r.endpoint with
  | .ok t' => t'
  | .error _ => t

def attemptAll (t : Tree ε) (calls : List (Route ε)) : Tree ε := calls.foldl attempt t

/-- The routes among some calls that are registered. -/
def accepted (t : Tree ε) : List (Route ε) → List (Route ε)
  | [] => []
  | r :: calls =>
    match t.add r.pattern r.endpoint with
    | .ok t' => r :: accepted t' calls
    | .error _ => accepted t calls

inductive Reachable : Tree ε → Prop
  | empty (registry : Registry) (selector : Text) : Reachable (empty registry selector)
  | attempt {t : Tree ε} (h : Reachable t) (r : Route ε) : Reachable (t.attempt r)
  | equip {t : Tree ε} (h : Reachable t) (registry : Registry) (selector : Text) :
      Reachable { t with registry, selector }

theorem Reachable.attemptAll {t : Tree ε} (h : t.Reachable) (calls : List (Route ε)) :
    (t.attemptAll calls).Reachable := by
  induction calls generalizing t with
  | nil => exact h
  | cons r calls ih => exact ih (h.attempt r)

structure Sound (t : Tree ε) : Prop where
  grown : Node.Grown t.routes [] t.root
  distinct : (t.routes.map Route.segments).Nodup
  read : ∀ r ∈ t.routes, Pattern.read r.pattern = .ok r.segments

theorem add_eq_ok {t t' : Tree ε} {pattern : Text} {endpoint : ε}
    (h : t.add pattern endpoint = .ok t') :
    ∃ root ss, t' = { t with root, routes := t.routes ++ [⟨pattern, endpoint⟩] } ∧
      Pattern.read pattern = .ok ss ∧
      ((ss = [] ∧ t.root.route = none ∧ root = t.root.withRoute ⟨pattern, endpoint⟩) ∨
        ∃ s ss', ss = s :: ss' ∧ t.root.fault? s ss' = none ∧
          root = t.root.graft ⟨pattern, endpoint⟩ 1 s ss') := by
  unfold add at h
  cases hr : Pattern.read pattern with
  | error fault => simp [Pattern.parse, hr, Except.mapError] at h
  | ok ss =>
    rw [Pattern.parse, hr] at h
    cases ss with
    | nil =>
      dsimp only [Except.mapError] at h
      split at h
      · cases h
      · rename_i hn
        cases h
        exact ⟨_, [], rfl, rfl, .inl ⟨rfl, by simpa using hn, rfl⟩⟩
    | cons s ss =>
      dsimp only [Except.mapError] at h
      split at h
      · cases h
      · rename_i hf
        cases h
        exact ⟨_, s :: ss, rfl, rfl, .inr ⟨s, ss, rfl, hf, rfl⟩⟩

theorem sound_empty (registry : Registry) (selector : Text) :
    (empty registry selector : Tree ε).Sound where
  grown := .mk ⟨rfl, rfl, rfl, rfl, rfl⟩ nofun
  distinct := .nil
  read := nofun

theorem Sound.add {t t' : Tree ε} (ht : t.Sound) {pattern : Text} {endpoint : ε}
    (h : t.add pattern endpoint = .ok t') : t'.Sound := by
  obtain ⟨root, ss, rfl, hread, hroot⟩ := add_eq_ok h
  let e : Route ε := ⟨pattern, endpoint⟩
  have he : e.segments = ss := Route.segments_eq hread
  have hnew : Routes.ending t.routes ss = none ∧ Node.Grown (t.routes ++ [e]) [] root := by
    rcases hroot with ⟨rfl, hn, rfl⟩ | ⟨s, ss', rfl, hf, rfl⟩
    · exact ⟨ht.grown.placed.route.symm.trans hn, ht.grown.withRoute he hn nofun⟩
    · have hof := e.regular.ofRaw
      rw [he, List.forall_mem_cons] at hof
      exact ⟨ht.grown.fresh hof.1 hof.2 hf, ht.grown.graft he hf⟩
  refine ⟨hnew.2, ?_, fun r hr => ?_⟩
  · rw [List.map_append, List.nodup_append]
    refine ⟨ht.distinct, List.nodup_singleton _, fun a ha b hb hab => ?_⟩
    obtain ⟨r, hr, rfl⟩ := List.mem_map.1 ha
    obtain rfl : b = ss := (List.mem_singleton.1 hb).trans he
    exact Routes.ending_eq_none.1 hnew.1 r hr hab
  · rcases List.mem_append.1 hr with hr | hr
    · exact ht.read r hr
    · obtain rfl := List.mem_singleton.1 hr
      exact he ▸ hread

theorem Sound.attempt {t : Tree ε} (ht : t.Sound) (r : Route ε) : (t.attempt r).Sound := by
  unfold Tree.attempt
  split
  · rename_i h
    exact ht.add h
  · exact ht

theorem Reachable.sound {t : Tree ε} (h : t.Reachable) : t.Sound := by
  induction h with
  | empty registry selector => exact sound_empty registry selector
  | attempt _ r ih => exact ih.attempt r
  | equip _ _ _ ih => exact ⟨ih.grown, ih.distinct, ih.read⟩

theorem routes_attemptAll (t : Tree ε) (calls : List (Route ε)) :
    (t.attemptAll calls).routes = t.routes ++ t.accepted calls := by
  induction calls generalizing t with
  | nil => exact (List.append_nil _).symm
  | cons r calls ih =>
    change ((t.attempt r).attemptAll calls).routes = _
    rw [ih, accepted, Tree.attempt]
    split
    · rename_i t' h
      obtain ⟨root, ss, rfl, _⟩ := add_eq_ok h
      simp
    · rfl

end Tree

end PathRouting
