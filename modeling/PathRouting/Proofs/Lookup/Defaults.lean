import PathRouting.Proofs.Lookup.Accepts
import PathRouting.Proofs.Tree.Grown

/-! # Falling back on defaults

Where a path ends at a node without a route, the defaults below it are followed as long as there is
no choice.  That finds the one route that lapses there, if its endpoint exposes what the selector
gets.
-/

namespace PathRouting

namespace Routes

variable {ε : Type} {rs : List (Route ε)} {p back : List Segment} {bs : List Binding} {r : Route ε}

theorem Lapses.nexts_eq (h : Lapses rs p back bs) (hne : back ≠ []) (hr : r ∈ rs)
    (hs : r.segments = p ++ back) :
    ∃ s b back' bs', back = s :: back' ∧ bs = b :: bs' ∧ nexts rs p = [s] ∧
      s.optional? = some b ∧ Lapses rs (p ++ [s]) back' bs' := by
  cases h with
  | nil => exact absurd rfl hne
  | @cons _ back s b bs free only optional tail =>
    refine ⟨s, b, back, bs, rfl, rfl, ?_, optional, tail⟩
    have hmem : s ∈ nexts rs p := mem_nexts.2 ⟨r, hr, back, by simp [hs]⟩
    have hall : ∀ s' ∈ nexts rs p, s' = s := by
      intro s' hs'
      obtain ⟨r', hr', more, hq⟩ := mem_nexts.1 hs'
      exact only r' hr' s' more (by simp [← hq])
    have hone := nodup_nexts rs p
    rw [List.eq_replicate_of_mem hall, List.nodup_replicate] at hone
    have hpos := List.length_pos_of_mem hmem
    rw [List.eq_replicate_of_mem hall, show (nexts rs p).length = 1 by omega]
    rfl

theorem only_of_nexts {s : Segment} (hn : nexts rs p = [s]) :
    ∀ r ∈ rs, ∀ s' more, r.segments = p ++ s' :: more → s' = s := by
  intro r hr s' more hq
  have hmem : s' ∈ nexts rs p := mem_nexts.2 ⟨r, hr, more, by simp [hq]⟩
  exact List.mem_singleton.1 (hn ▸ hmem)

variable [Endpoint ε] {v : Sight}

/-- The route `r` lapses after `p`, where the defaults followed so far have bound `bs`. -/
structure Defaulted (rs : List (Route ε)) (v : Sight) (p : List Segment) (bs : List Binding)
    (r : Route ε) (bs' : List Binding) : Prop where
  mem : r ∈ rs
  lapses : ∃ back, back ≠ [] ∧ r.segments = p ++ back ∧ Lapses rs p back bs'
  exposes : Exposes v r (bs ++ bs')

theorem Defaulted.nexts_eq {bs' : List Binding} (h : Defaulted rs v p bs r bs') :
    ∃ s b, nexts rs p = [s] ∧ s.optional? = some b := by
  obtain ⟨back, hne, hs, hl⟩ := h.lapses
  obtain ⟨s, b, -, -, -, -, hn, ho, -⟩ := hl.nexts_eq hne h.mem hs
  exact ⟨s, b, hn, ho⟩

theorem Defaulted.free {bs' : List Binding} (h : Defaulted rs v p bs r bs') :
    ∀ r ∈ rs, r.segments ≠ p := by
  obtain ⟨back, hne, -, hl⟩ := h.lapses
  cases hl with
  | nil => exact absurd rfl hne
  | cons free => exact free

theorem defaulted_iff {s : Segment} {b : Binding} {bs' : List Binding} (hn : nexts rs p = [s])
    (ho : s.optional? = some b) (hfree : ∀ r ∈ rs, r.segments ≠ p) :
    Defaulted rs v p bs r bs' ↔ ∃ bs'', bs' = b :: bs'' ∧
      ((r ∈ rs ∧ r.segments = p ++ [s] ∧ bs'' = [] ∧ Exposes v r (bs ++ [b])) ∨
        Defaulted rs v (p ++ [s]) (bs ++ [b]) r bs'') := by
  constructor
  · rintro ⟨hr, ⟨back, hne, hs, hl⟩, hex⟩
    obtain ⟨s', b', back', bs'', rfl, rfl, hn', ho', htail⟩ := hl.nexts_eq hne hr hs
    obtain rfl : s = s' := List.singleton_inj.1 (hn.symm.trans hn')
    obtain rfl : b = b' := Option.some.inj (ho.symm.trans ho')
    refine ⟨bs'', rfl, ?_⟩
    by_cases hnil : back' = []
    · subst hnil
      cases htail
      exact .inl ⟨hr, hs, rfl, hex⟩
    · exact .inr ⟨hr, ⟨back', hnil, by simpa using hs, htail⟩, by simpa using hex⟩
  · rintro ⟨bs'', rfl, ⟨hr, hs, rfl, hex⟩ | ⟨hr, ⟨back, hne, hs, hl⟩, hex⟩⟩
    · exact ⟨hr, ⟨[s], nofun, hs, .cons hfree (only_of_nexts hn) ho .nil⟩, hex⟩
    · exact ⟨hr, ⟨s :: back, nofun, by simpa using hs, .cons hfree (only_of_nexts hn) ho hl⟩,
        by simpa using hex⟩

end Routes

namespace Node

open Routes

variable {ε : Type} [Endpoint ε] {rs : List (Route ε)} {v : Sight} {p : List Segment} {n c : Node ε}
  {mark : Nat} {trail : Trail}

theorem fallBack_of_one (hc : n.children = [c]) :
    fallBack v mark n trail =
      match c.optional? with
      | none => (none, trail.cutBack mark)
      | some b =>
        match c.route with
        | none => fallBack v mark c (trail.bind b)
        | some r =>
          if exposes v r mark (trail.bind b).bindings then (some ⟨r, none⟩, trail.bind b)
          else
            let event := .selectorNotExposed (Endpoint.name r.endpoint) r.pattern v.method.token
            (none, ((trail.bind b).report event).cutBack mark) := by
  obtain ⟨_, _, _, _, cs⟩ := n
  obtain rfl : cs = [c] := hc
  exact fallBack.eq_1 ..

theorem fallBack_of_not_one (hc : ¬∃ c, n.children = [c]) :
    fallBack v mark n trail = (none, trail.cutBack mark) := by
  obtain ⟨_, _, _, _, cs⟩ := n
  match cs, hc with
  | [], _ => rfl
  | [c], hc => exact absurd ⟨c, rfl⟩ hc
  | _ :: _ :: _, _ => rfl

theorem exposes_iff {r : Route ε} {base bs : List Binding} :
    exposes v r base.length (base ++ bs) = true ↔ Exposes v r bs := by
  simp only [exposes, List.drop_left, List.all_eq_true, Exposes]
  refine forall₂_congr fun b _ => ?_
  by_cases hb : b.1 = v.selector <;> simp [hb]

/-- What falling back gives when `base` was bound on the way to the node and `bs` by defaults. -/
def FallsBack (rs : List (Route ε)) (v : Sight) (p : List Segment) (base bs : List Binding) :
    Option (Hit ε) × Trail → Prop
  | (some hit, trail) => hit.rest = none ∧
      ∃ bs', trail.bindings = base ++ bs ++ bs' ∧ Defaulted rs v p bs hit.route bs'
  | (none, trail) => trail.bindings = base ∧ ∀ r bs', ¬Defaulted rs v p bs r bs'

theorem FallsBack.step {base bs : List Binding} {s : Segment} {b : Binding}
    {result : Option (Hit ε) × Trail} (hn : nexts rs p = [s]) (ho : s.optional? = some b)
    (hfree : ∀ r ∈ rs, r.segments ≠ p) (hfree' : ∀ r ∈ rs, r.segments ≠ p ++ [s])
    (h : FallsBack rs v (p ++ [s]) base (bs ++ [b]) result) : FallsBack rs v p base bs result := by
  match result, h with
  | (some hit, trail), ⟨hrest, bs', hb, hdef⟩ =>
    exact ⟨hrest, b :: bs', by simpa using hb, (defaulted_iff hn ho hfree).2 ⟨bs', rfl, .inr hdef⟩⟩
  | (none, trail), ⟨hb, hno⟩ =>
    refine ⟨hb, fun r bs' hdef => ?_⟩
    obtain ⟨bs'', -, ⟨hr, hs, -⟩ | hdef⟩ := (defaulted_iff hn ho hfree).1 hdef
    · exact hfree' r hr hs
    · exact hno r bs'' hdef

/-- Where the next default leads to a route, that route is the only one to lapse so far. -/
theorem FallsBack.of_route {base bs : List Binding} {s : Segment} {b : Binding} {r : Route ε}
    {event : Event} (hd : (rs.map Route.segments).Nodup) (hn : nexts rs p = [s])
    (ho : s.optional? = some b) (hfree : ∀ r ∈ rs, r.segments ≠ p) (hr : r ∈ rs)
    (hs : r.segments = p ++ [s]) (hb : trail.bindings = base ++ (bs ++ [b])) :
    FallsBack rs v p base bs
      (if exposes v r base.length trail.bindings then (some ⟨r, none⟩, trail)
        else (none, (trail.report event).cutBack base.length)) := by
  have hexposes : exposes v r base.length trail.bindings = true ↔ Exposes v r (bs ++ [b]) :=
    hb ▸ exposes_iff
  split
  · rename_i hex
    refine ⟨rfl, [b], by simpa using hb, (defaulted_iff hn ho hfree).2 ⟨[], rfl, .inl ?_⟩⟩
    exact ⟨hr, hs, rfl, hexposes.1 hex⟩
  · rename_i hex
    refine ⟨by simp [Trail.report, Trail.cutBack, hb], fun r' bs' hdef => ?_⟩
    obtain ⟨bs'', -, ⟨hr', hs', -, hex'⟩ | hdef⟩ := (defaulted_iff hn ho hfree).1 hdef
    · obtain rfl := eq_of_segments hd hr hr' (hs.trans hs'.symm)
      exact hex (hexposes.2 hex')
    · exact hdef.free r hr hs

/-- Falling back finds the route that lapses after a node, if there is one. -/
theorem Grown.fallsBack (hd : (rs.map Route.segments).Nodup) (h : Grown rs p n)
    (hroute : n.route = none) {base bs : List Binding} (hb : trail.bindings = base ++ bs) :
    FallsBack rs v p base bs (fallBack v base.length n trail) := by
  induction h generalizing trail bs with
  | @mk p n placed children ih =>
    have hcut : (trail.cutBack base.length).bindings = base := by simp [Trail.cutBack, hb]
    have hfree : ∀ r ∈ rs, r.segments ≠ p := placed.of_route_eq_none hroute
    by_cases hone : ∃ c, n.children = [c]
    · obtain ⟨c, hc⟩ := hone
      obtain ⟨s, hl, hn⟩ := placed.of_one_child hc
      have hmem : c ∈ n.children := hc ▸ List.mem_singleton_self c
      have hg : Grown rs p n := .mk placed children
      have hchild : Placed rs (p ++ [s]) c := (hg.child_of_label hmem hl).placed
      rw [fallBack_of_one hc, show c.optional? = s.optional? by simp [Node.optional?, hl]]
      cases ho : s.optional? with
      | none =>
        refine ⟨hcut, fun r bs' hdef => ?_⟩
        obtain ⟨s', b, hn', ho'⟩ := hdef.nexts_eq
        rw [← List.singleton_inj.1 (hn.symm.trans hn'), ho] at ho'
        cases ho'
      | some b =>
        have hbind : (trail.bind b).bindings = base ++ (bs ++ [b]) := by simp [Trail.bind, hb]
        cases hr : c.route with
        | none =>
          have hfalls := ih c hmem hr hbind
          rw [hl] at hfalls
          exact hfalls.step hn ho hfree (hchild.of_route_eq_none hr)
        | some r =>
          obtain ⟨hmem, hs⟩ := hchild.of_route_eq_some hr
          exact .of_route hd hn ho hfree hmem hs hbind
    · rw [fallBack_of_not_one hone]
      refine ⟨hcut, fun r bs' hdef => ?_⟩
      obtain ⟨s, -, hn, -⟩ := hdef.nexts_eq
      exact hone (placed.one_child hn)

end Node

end PathRouting
