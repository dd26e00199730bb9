import Mathlib.Data.List.Sort
import PathRouting.Proofs.Dictionary
import PathRouting.Proofs.Tree.Reachable

/-! # The validators of a tree

The nodes of a tree name the validators that the patterns of its routes name, however the routes
share them; so what is missing can be read off the list of routes.
-/

namespace PathRouting

def Segment.validators (s : Segment) : List Text := s.slots.map (·.2.validator)

variable {ε : Type}

def Route.validators (r : Route ε) : List Text := r.segments.flatMap Segment.validators

namespace Node

open Routes

variable {rs : List (Route ε)} {q : List Segment} {n : Node ε} {v : Text}

theorem mem_validatorsOf {ns : List (Node ε)} :
    v ∈ validatorsOf ns ↔ ∃ n ∈ ns, v ∈ n.validators := by
  induction ns with
  | nil => simp [validatorsOf]
  | cons n ns ih => simp [validatorsOf, ih]

theorem mem_validators : v ∈ n.validators ↔
    (∃ s, n.label = some s ∧ v ∈ s.validators) ∨ ∃ c ∈ n.children, v ∈ c.validators := by
  obtain ⟨label, depth, height, route, children⟩ := n
  rw [validators, List.mem_append, mem_validatorsOf]
  cases label with
  | none => simp [Node.label, Node.children]
  | some s => simp [Node.label, Node.children, Segment.validators]

theorem Grown.mem_validators_iff (h : Grown rs q n) : v ∈ n.validators ↔
    (∃ s, n.label = some s ∧ v ∈ s.validators) ∨
      ∃ r ∈ rs, ∃ ss, r.segments = q ++ ss ∧ ∃ s ∈ ss, v ∈ s.validators := by
  induction h with
  | @mk q n placed children ih =>
    rw [mem_validators]
    apply or_congr_right
    -- what routes name after `q` is what they name in `s` or after it, for some child's `s`
    constructor
    · rintro ⟨c, hc, hv⟩
      obtain ⟨s, hs, hl⟩ := placed.label_of_mem hc
      rw [ih c hc, hl] at hv
      rcases hv with ⟨s', hs', hv⟩ | ⟨r, hr, ss, he, hv⟩
      · cases hs'
        obtain ⟨r, hr, ss, he⟩ := mem_nexts.1 hs
        exact ⟨r, hr, s :: ss, by rw [← he]; simp, s, List.mem_cons_self, hv⟩
      · obtain ⟨s', hs', hv⟩ := hv
        exact ⟨r, hr, s :: ss, by simp [he], s', List.mem_cons_of_mem s hs', hv⟩
    · rintro ⟨r, hr, ss, he, s', hs', hv⟩
      cases ss with
      | nil => cases hs'
      | cons s ss =>
        have hs : s ∈ nexts rs q := mem_nexts.2 ⟨r, hr, ss, by simp [he]⟩
        obtain ⟨c, hc, hl⟩ := placed.exists_child hs
        refine ⟨c, hc, (ih c hc).2 ?_⟩
        rw [hl]
        rcases List.mem_cons.1 hs' with rfl | hs'
        · exact .inl ⟨s', rfl, hv⟩
        · exact .inr ⟨r, hr, ss, by simp [he], s', hs', hv⟩

end Node

namespace Tree

variable {t t' : Tree ε} {v : Text}

theorem Sound.mem_validators (ht : t.Sound) :
    v ∈ t.root.validators ↔ ∃ r ∈ t.routes, v ∈ r.validators := by
  rw [ht.grown.mem_validators_iff, ht.grown.placed.label]
  simp [Route.validators]

theorem Sound.mem_validators_of_mem (ht : t.Sound) {r : Route ε} (hr : r ∈ t.routes) :
    v ∈ r.validators ↔
      ∃ ss, Pattern.parse r.pattern = .ok ss ∧ ∃ s ∈ ss, v ∈ s.validators := by
  have hparse := Pattern.parse_of_read (ht.read r hr)
  rw [Route.validators, List.mem_flatMap]
  constructor
  · rintro ⟨s, hs, hv⟩
    exact ⟨r.segments, hparse, s, hs, hv⟩
  · rintro ⟨ss, hss, s, hs, hv⟩
    obtain rfl := Except.ok.inj (hparse.symm.trans hss)
    exact ⟨s, hs, hv⟩

/-- Missing is what some pattern names and the registry lacks. -/
theorem Sound.mem_missingValidators (ht : t.Sound) : v ∈ t.missingValidators ↔
    (∃ r ∈ t.routes, v ∈ r.validators) ∧ t.registry.contains v = false := by
  rw [missingValidators, Dictionary.mem_keys_ofList, ← ht.mem_validators]
  simp

theorem pairwise_missingValidators (t : Tree ε) : t.missingValidators.Pairwise (· < ·) :=
  Dictionary.pairwise_keys _

theorem Sound.missingValidators_eq (ht : t.Sound) (ht' : t'.Sound)
    (hroutes : ∀ r, r ∈ t.routes ↔ r ∈ t'.routes) (hregistry : t.registry = t'.registry) :
    t.missingValidators = t'.missingValidators := by
  apply t.pairwise_missingValidators.eq_of_mem_iff t'.pairwise_missingValidators
  intro v
  simp only [ht.mem_missingValidators, ht'.mem_missingValidators, hroutes, hregistry]

end Tree

end PathRouting
