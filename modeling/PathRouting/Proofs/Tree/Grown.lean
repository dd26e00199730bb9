import PathRouting.Proofs.Tree.Routes

/-! # Grown nodes

A node is grown from routes when it is what they make of the node after `q`: all it holds, and the
order of its children, can be read off the list of routes.  Grafting one more route gives the node
grown from all of them.
-/

namespace PathRouting

namespace Node

open Routes

variable {ε : Type} {rs : List (Route ε)} {q : List Segment} {n : Node ε}

/-- What a node after `q` holds when the routes `rs` are registered. -/
structure Placed (rs : List (Route ε)) (q : List Segment) (n : Node ε) : Prop where
  label : n.label = q.getLast?
  depth : n.depth = q.length
  height : n.height = Routes.height rs q
  route : n.route = ending rs q
  labels : n.children.map Node.label = (nexts rs q).map some

inductive Grown (rs : List (Route ε)) : List Segment → Node ε → Prop
  | mk {q : List Segment} {n : Node ε} (placed : Placed rs q n)
      (children : ∀ c ∈ n.children, Grown rs (q ++ c.label.toList) c) : Grown rs q n

theorem Grown.placed (h : Grown rs q n) : Placed rs q n := by
  cases h with | mk placed _ => exact placed

theorem Grown.child (h : Grown rs q n) {c : Node ε} (hc : c ∈ n.children) :
    Grown rs (q ++ c.label.toList) c := by
  cases h with | mk _ children => exact children c hc

theorem Placed.of_route_eq_some (h : Placed rs q n) {r : Route ε} (hr : n.route = some r) :
    r ∈ rs ∧ r.segments = q :=
  ending_eq_some (h.route.symm.trans hr)

theorem Placed.of_route_eq_none (h : Placed rs q n) (hr : n.route = none) :
    ∀ r ∈ rs, r.segments ≠ q :=
  ending_eq_none.1 (h.route.symm.trans hr)

theorem Grown.child_of_label (h : Grown rs q n) {c : Node ε} (hc : c ∈ n.children) {s : Segment}
    (hl : c.label = some s) : Grown rs (q ++ [s]) c := by
  have hg := h.child hc
  rwa [hl] at hg

theorem Placed.label_of_mem (h : Placed rs q n) {c : Node ε} (hc : c ∈ n.children) :
    ∃ s ∈ nexts rs q, c.label = some s := by
  have hl : c.label ∈ (nexts rs q).map some := h.labels ▸ List.mem_map_of_mem hc
  obtain ⟨s, hs, he⟩ := List.mem_map.1 hl
  exact ⟨s, hs, he.symm⟩

theorem Placed.exists_route (h : Placed rs q n) {c : Node ε} (hc : c ∈ n.children) :
    ∃ r ∈ rs, q ++ c.label.toList <+: r.segments := by
  obtain ⟨s, hs, hl⟩ := h.label_of_mem hc
  rw [hl]
  exact Routes.mem_nexts.1 hs

theorem Grown.raise_child_le (h : Grown rs q n) {c : Node ε} (hc : c ∈ n.children) :
    raise c.height ≤ n.height := by
  obtain ⟨s, hs, hl⟩ := h.placed.label_of_mem hc
  rw [(h.child_of_label hc hl).placed.height, h.placed.height]
  exact raise_height_le hs

theorem Placed.mem_nexts (h : Placed rs q n) {c : Node ε} {s : Segment} (hc : c ∈ n.children)
    (hs : c.label = some s) : s ∈ nexts rs q := by
  obtain ⟨t, ht, hl⟩ := h.label_of_mem hc
  obtain rfl : s = t := by simpa [hs] using hl
  exact ht

theorem Placed.exists_child (h : Placed rs q n) {s : Segment} (hs : s ∈ nexts rs q) :
    ∃ c ∈ n.children, c.label = some s := by
  have hl : some s ∈ n.children.map Node.label := h.labels ▸ List.mem_map_of_mem hs
  exact List.mem_map.1 hl

theorem Placed.of_one_child (h : Placed rs q n) {c : Node ε} (hc : n.children = [c]) :
    ∃ s, c.label = some s ∧ nexts rs q = [s] := by
  obtain ⟨s, hs, hl⟩ := h.label_of_mem (hc ▸ List.mem_singleton_self c)
  have hlabels := h.labels
  rw [hc, List.map_singleton, hl] at hlabels
  obtain ⟨s', he, hs'⟩ := List.map_eq_singleton_iff.1 hlabels.symm
  exact ⟨s, hl, by rw [he, Option.some.inj hs']⟩

theorem Placed.one_child (h : Placed rs q n) {s : Segment} (hs : nexts rs q = [s]) :
    ∃ c, n.children = [c] := by
  have hlabels := h.labels
  rw [hs] at hlabels
  obtain ⟨c, hc, -⟩ := List.map_eq_singleton_iff.1 hlabels
  exact ⟨c, hc⟩

theorem ofRaw_of_mem_nexts {s : Segment} (h : s ∈ nexts rs q) :
    Segment.ofRaw? s.raw = some s := by
  obtain ⟨r, _, hq⟩ := Routes.mem_nexts.1 h
  exact r.regular.ofRaw s (hq.subset (by simp))

theorem raw_of_label {c : Node ε} {s : Segment} (h : c.label = some s) : c.raw = s.raw := by
  simp [Node.raw, h]

theorem Placed.child?_eq_some (h : Placed rs q n) {s : Segment} {c : Node ε}
    (hs : Segment.ofRaw? s.raw = some s) (hc : n.child? s.raw = some c) :
    c ∈ n.children ∧ c.label = some s := by
  have hm := List.mem_of_find?_eq_some hc
  obtain ⟨t, ht, hl⟩ := h.label_of_mem hm
  have hr : t.raw = s.raw := by
    rw [← raw_of_label hl]
    simpa using List.find?_some hc
  have he := ofRaw_of_mem_nexts ht
  rw [hr, hs] at he
  exact ⟨hm, he ▸ hl⟩

theorem Placed.child?_eq_none (h : Placed rs q n) {s : Segment} (hc : n.child? s.raw = none) :
    s ∉ nexts rs q := by
  intro hs
  obtain ⟨c, hm, hl⟩ := h.exists_child hs
  have := List.find?_eq_none.1 hc c hm
  simp [raw_of_label hl] at this

theorem Placed.raws (h : Placed rs q n) :
    n.children.map Node.raw = (nexts rs q).map Segment.raw := by
  have hraw : Node.raw = fun n : Node ε => n.label.elim [] Segment.raw := rfl
  have he := congrArg (List.map fun l : Option Segment => l.elim [] Segment.raw) h.labels
  rw [List.map_map, List.map_map] at he
  exact he

theorem Placed.pairwise_raws (h : Placed rs q n) : (n.children.map Node.raw).Pairwise fun a b =>
    earliest rs (q.map Segment.raw ++ [a]) < earliest rs (q.map Segment.raw ++ [b]) := by
  rw [h.raws]
  exact List.pairwise_map.2 (pairwise_nexts rs q)

theorem label_of_isRest {c : Node ε} (h : c.isRest = true) : c.label = some .rest := by
  obtain ⟨s, hl, hs⟩ := (Option.any_eq_true ..).1 h
  cases s with
  | rest => exact hl
  | _ => cases hs

theorem Placed.find?_isRest (h : Placed rs q n) :
    (∃ c r, n.children.find? isRest = some c ∧ c ∈ n.children ∧ c.label = some .rest ∧ r ∈ rs ∧
      r.segments = q ++ [.rest]) ∨
      n.children.find? isRest = none ∧ .rest ∉ nexts rs q := by
  cases hc : n.children.find? isRest with
  | none =>
    refine .inr ⟨rfl, fun hrest => ?_⟩
    obtain ⟨c, hm, hl⟩ := h.exists_child hrest
    exact List.find?_eq_none.1 hc c hm (by simp [isRest, hl, Segment.isRest])
  | some c =>
    have hm := List.mem_of_find?_eq_some hc
    have hl := label_of_isRest (List.find?_some hc)
    obtain ⟨r, hr, hs⟩ := exists_of_rest_mem_nexts (h.mem_nexts hm hl)
    exact .inl ⟨c, r, rfl, hm, hl, hr, hs⟩

theorem Placed.route_of_segments (hd : (rs.map Route.segments).Nodup) (h : Placed rs q n)
    {r : Route ε} (hr : r ∈ rs) (hs : r.segments = q) : n.route = some r := by
  cases hn : n.route with
  | none => exact absurd hs (h.of_route_eq_none hn r hr)
  | some r' =>
    obtain ⟨hr', hs'⟩ := h.of_route_eq_some hn
    rw [eq_of_segments hd hr' hr (hs'.trans hs.symm)]

/-- A route that does not begin with `q` changes nothing there. -/
theorem Placed.frame (h : Placed rs q n) {e : Route ε} (he : ¬q <+: e.segments) :
    Placed (rs ++ [e]) q n where
  label := h.label
  depth := h.depth
  height := by rw [h.height, height_concat, if_neg he]
  route := by
    have hn : e.segments ≠ q := fun h => he (h ▸ List.prefix_refl _)
    rw [h.route, ending_concat, if_neg hn, Option.or_none]
  labels := by
    have hn : e.next? q = none := if_neg he
    rw [h.labels, nexts_concat, join, hn]

theorem Grown.frame (h : Grown rs q n) {e : Route ε} (he : ¬q <+: e.segments) :
    Grown (rs ++ [e]) q n := by
  induction h with
  | mk placed _ ih =>
    exact .mk (placed.frame he) fun c hc => ih c hc fun hq => he ((List.prefix_append ..).trans hq)

theorem Grown.frame_child (h : Grown rs q n) {e : Route ε} {s : Segment} {ss : List Segment}
    (he : e.segments = q ++ s :: ss) {c : Node ε} (hc : c ∈ n.children) (hs : c.label ≠ some s) :
    Grown (rs ++ [e]) (q ++ c.label.toList) c := by
  refine (h.child hc).frame fun hq => ?_
  obtain ⟨t, _, hl⟩ := h.placed.label_of_mem hc
  rw [hl, he, List.prefix_append_right_inj] at hq
  simp only [Option.toList_some, List.cons_prefix_cons, List.nil_prefix, and_true] at hq
  exact hs (hq ▸ hl)

/-- The route of `q` itself is put on the node. -/
theorem Grown.withRoute (h : Grown rs q n) {e : Route ε} (he : e.segments = q)
    (hn : n.route = none) (hr : q.getLast? ≠ some .rest) :
    Grown (rs ++ [e]) q (n.withRoute e) := by
  have hp := h.placed
  have hnext : e.next? q = none := by
    refine Route.next?_eq_none.2 fun s hs => ?_
    have := hs.length_le
    simp only [he, List.length_append, List.length_singleton] at this
    omega
  refine .mk ⟨?_, ?_, ?_, ?_, ?_⟩ fun c hc => ?_
  · simpa using hp.label
  · simpa using hp.depth
  · have hone := one_le_height rs q
    rw [height_withRoute, hp.height, height_concat, if_pos (he ▸ List.prefix_refl _),
      Route.heightFrom, he, if_neg hr]
    omega
  · rw [route_withRoute, ending_concat, ← hp.route, hn, Option.none_or, if_pos he]
  · rw [children_withRoute, hp.labels, nexts_concat, join, hnext]
  · rw [children_withRoute] at hc
    obtain ⟨t, _, hl⟩ := hp.label_of_mem hc
    refine (h.child hc).frame fun hq => ?_
    have := hq.length_le
    simp only [he, hl, Option.toList_some, List.length_append, List.length_singleton] at this
    omega

theorem label_chain (e : Route ε) (depth : Nat) (s : Segment) (ss : List Segment) :
    (chain e depth s ss).label = some s := by
  cases ss <;> rfl

theorem depth_chain {e : Route ε} {s : Segment} {ss : List Segment}
    (he : e.segments = q ++ s :: ss) :
    (chain e (q.length + 1) s ss).depth = (q ++ [s]).length := by
  have hlen := e.length_segments_le
  simp only [he, List.length_append, List.length_cons, Pattern.mostSegments] at hlen
  have hdepth : (chain e (q.length + 1) s ss).depth = min (q.length + 1) unbounded := by
    cases ss <;> rfl
  rw [hdepth, List.length_append, List.length_singleton, unbounded]
  omega

theorem grown_chain_nil {e : Route ε} {s : Segment} (he : e.segments = q ++ [s])
    (hn : ∀ r ∈ rs, ¬q ++ [s] <+: r.segments) :
    Grown (rs ++ [e]) (q ++ [s]) (chain e (q.length + 1) s []) := by
  have hq : q ++ [s] <+: e.segments := he ▸ List.prefix_refl _
  refine .mk ⟨?_, depth_chain he, ?_, ?_, ?_⟩ fun c hc => absurd hc List.not_mem_nil
  · simp [chain, label]
  · rw [height_of_first hq hn, Route.heightFrom, he]
    cases s <;> simp [chain, Node.height, Segment.isRest]
  · rw [ending_concat, ending_of_untouched hn, Option.none_or, if_pos he]
    rfl
  · have hnext : e.next? (q ++ [s]) = none := by
      refine Route.next?_eq_none.2 fun t ht => ?_
      have := ht.length_le
      simp [he] at this
    rw [nexts_concat, nexts_of_untouched hn, join, hnext]
    rfl

/-- Where no route went before, the chain of a pattern is all there is. -/
theorem grown_chain {e : Route ε} {s : Segment} {ss : List Segment}
    (he : e.segments = q ++ s :: ss) (hn : ∀ r ∈ rs, ¬q ++ [s] <+: r.segments) :
    Grown (rs ++ [e]) (q ++ [s]) (chain e (q.length + 1) s ss) := by
  induction ss generalizing q s with
  | nil => exact grown_chain_nil he hn
  | cons t ss ih =>
    have he' : e.segments = (q ++ [s]) ++ t :: ss := by simp [he]
    have hq : q ++ [s] <+: e.segments := ⟨t :: ss, he'.symm⟩
    have hq' : (q ++ [s]) ++ [t] <+: e.segments := ⟨ss, by simp [he]⟩
    have hn' : ∀ r ∈ rs, ¬(q ++ [s]) ++ [t] <+: r.segments :=
      fun r hr h => hn r hr ((List.prefix_append ..).trans h)
    have hbelow := ih he' hn'
    rw [List.length_append, List.length_singleton] at hbelow
    refine .mk ⟨?_, depth_chain he, ?_, ?_, ?_⟩ fun c hc => ?_
    · simp [chain, label]
    · rw [height_of_first hq hn, ← Route.raise_heightFrom hq', ← height_of_first hq' hn',
        ← hbelow.placed.height]
      rfl
    · have hne : e.segments ≠ q ++ [s] := by simp [he]
      rw [ending_concat, ending_of_untouched hn, if_neg hne]
      rfl
    · rw [nexts_concat, nexts_of_untouched hn, join, Route.next?_of_eq he']
      simp [chain, children, label_chain]
    · obtain rfl := List.mem_singleton.1 hc
      simpa [label_chain] using hbelow

end Node

end PathRouting
