import Mathlib.Data.List.Nodup
import PathRouting.Proofs.Tree.Reachable

/-! # The prefix tree of the routes

Below the root there is one node for every beginning of a route and none besides.  Children stand in
the order in which the first route through each was accepted, and each route owns the node at its
end.
-/

namespace PathRouting

namespace Node

open Routes

variable {ε : Type} {rs : List (Route ε)} {p : List Segment} {n : Node ε}

/-- The nodes that raw texts lead to, one text a level. -/
def reached : List Text → Node ε → List (Node ε)
  | [], n => [n]
  | t :: q, n => (n.children.filter (·.raw == t)).flatMap (reached q)

mutual

/-- The routes that end at a node or below it. -/
def terminals : Node ε → List (Route ε)
  | mk _ _ _ route children => route.toList ++ terminalsOf children

def terminalsOf : List (Node ε) → List (Route ε)
  | [] => []
  | n :: ns => terminals n ++ terminalsOf ns

end

theorem terminalsOf_eq (ns : List (Node ε)) : terminalsOf ns = ns.flatMap terminals := by
  induction ns with
  | nil => rfl
  | cons n ns ih => rw [terminalsOf, ih, List.flatMap_cons]

theorem terminals_eq (n : Node ε) :
    n.terminals = n.route.toList ++ n.children.flatMap terminals := by
  cases n
  rw [terminals, terminalsOf_eq]
  rfl

theorem Placed.nodup_raws (h : Placed rs p n) : (n.children.map Node.raw).Nodup := by
  refine h.pairwise_raws.imp fun hlt he => ?_
  rw [he] at hlt
  exact Nat.lt_irrefl _ hlt

theorem Placed.filter_children (h : Placed rs p n) (t : Text) :
    n.children.filter (·.raw == t) = (n.child? t).toList := by
  unfold child?
  cases hc : n.children.find? (·.raw == t) with
  | none => simpa using hc
  | some c =>
    obtain ⟨hct, before, after, hch, hb⟩ := List.find?_eq_some_iff_append.1 hc
    have hnd := h.nodup_raws
    rw [hch, List.map_append, List.map_cons] at hnd
    have hnot := (List.nodup_middle.1 hnd).notMem
    rw [← List.map_append] at hnot
    have hbefore : before.filter (·.raw == t) = [] := by simpa using hb
    have hafter : after.filter (·.raw == t) = [] := by
      refine List.filter_eq_nil_iff.2 fun b hm hbt => hnot ?_
      rw [eq_of_beq hct, ← eq_of_beq hbt]
      exact List.mem_map_of_mem (List.mem_append_right _ hm)
    rw [hch, List.filter_append, List.filter_cons, if_pos hct, hbefore, hafter]
    rfl

theorem Grown.reached_cases (h : Grown rs p n) (q : List Text) :
    (∃ m ss, n.reached q = [m] ∧ ss.map Segment.raw = q ∧ Grown rs (p ++ ss) m ∧
        (ss = [] ∨ ∃ r ∈ rs, p ++ ss <+: r.segments)) ∨
      (n.reached q = [] ∧ q ≠ [] ∧
        ∀ r ∈ rs, p <+: r.segments → ¬p.map Segment.raw ++ q <+: r.raws) := by
  induction q generalizing n p with
  | nil => exact .inl ⟨n, [], rfl, rfl, by simpa using h, .inl rfl⟩
  | cons t q ih =>
    rw [reached, h.placed.filter_children]
    cases hc : n.child? t with
    | none =>
      refine .inr ⟨rfl, List.cons_ne_nil _ _, fun r hr hpr hq => ?_⟩
      obtain ⟨more, hmore⟩ := hpr
      rw [Route.raws, ← hmore, List.map_append, List.prefix_append_right_inj] at hq
      cases more with
      | nil => simp at hq
      | cons s more =>
        obtain rfl : t = s.raw := (List.cons_prefix_cons.1 hq).1
        exact h.placed.child?_eq_none hc (mem_nexts.2 ⟨r, hr, more, by simpa using hmore⟩)
    | some c =>
      have hm := List.mem_of_find?_eq_some hc
      have hct : c.raw = t := by simpa using List.find?_some hc
      obtain ⟨s, hs, hl⟩ := h.placed.label_of_mem hm
      obtain rfl : s.raw = t := (raw_of_label hl).symm.trans hct
      have hg := h.child_of_label hm hl
      obtain ⟨r₀, hr₀, hq₀⟩ := mem_nexts.1 hs
      rcases ih hg with ⟨m, ss, hreach, rfl, hgm, hthrough⟩ | ⟨hreach, -, hno⟩
      · refine .inl ⟨m, s :: ss, by simpa using hreach, rfl, by simpa using hgm, .inr ?_⟩
        rcases hthrough with rfl | ⟨r, hr, hq⟩
        · exact ⟨r₀, hr₀, hq₀⟩
        · exact ⟨r, hr, by simpa using hq⟩
      · refine .inr ⟨by simpa using hreach, List.cons_ne_nil _ _, fun r hr _ hq => ?_⟩
        have hraw : (p ++ [s]).map Segment.raw ++ q = p.map Segment.raw ++ s.raw :: q := by simp
        have hps : p ++ [s] <+: r.segments :=
          Route.prefix_of_raws hq₀ ((List.prefix_append _ q).trans (hraw ▸ hq))
        exact hno r hr hps (hraw ▸ hq)

/-- A node owns the routes through it, each one once. -/
theorem Grown.mem_terminals (h : Grown rs p n) {r : Route ε} :
    r ∈ n.terminals → r ∈ rs ∧ p <+: r.segments := by
  induction h with
  | @mk p n placed _ ih =>
    rw [terminals_eq, List.mem_append, List.mem_flatMap]
    rintro (hr | ⟨c, hc, hr⟩)
    · obtain ⟨hmem, rfl⟩ := placed.of_route_eq_some (Option.mem_toList.1 hr)
      exact ⟨hmem, List.prefix_refl _⟩
    · obtain ⟨hr, hq⟩ := ih c hc hr
      exact ⟨hr, (List.prefix_append ..).trans hq⟩

theorem Grown.terminals_mem (hd : (rs.map Route.segments).Nodup) (h : Grown rs p n) {r : Route ε}
    (hr : r ∈ rs) (hp : p <+: r.segments) : r ∈ n.terminals := by
  obtain ⟨more, hmore⟩ := hp
  induction more generalizing n p with
  | nil =>
    have hroute := h.placed.route_of_segments hd hr (by simpa using hmore.symm)
    rw [terminals_eq, hroute]
    exact List.mem_append_left _ (List.mem_singleton_self _)
  | cons s more ih =>
    obtain ⟨c, hc, hl⟩ := h.placed.exists_child (mem_nexts.2 ⟨r, hr, more, by simpa using hmore⟩)
    have hmem := ih (h.child_of_label hc hl) (by simpa using hmore)
    rw [terminals_eq]
    exact List.mem_append_right _ (List.mem_flatMap.2 ⟨c, hc, hmem⟩)

theorem Grown.nodup_terminals (h : Grown rs p n) : n.terminals.Nodup := by
  induction h with
  | @mk p n placed children ih =>
    rw [terminals_eq, List.nodup_append, List.nodup_flatMap]
    refine ⟨by cases n.route <;> simp, ⟨ih, ?_⟩, fun r hr r' hr' he => ?_⟩
    · have hlabels : (n.children.map Node.label).Nodup := by
        rw [placed.labels]
        exact (nodup_nexts rs p).map fun _ _ => Option.some.inj
      refine (List.pairwise_map.1 hlabels).imp_of_mem fun {c c'} hc hc' hne r hr hr' => hne ?_
      obtain ⟨s, _, hl⟩ := placed.label_of_mem hc
      obtain ⟨s', _, hl'⟩ := placed.label_of_mem hc'
      have hq := ((children c hc).mem_terminals hr).2
      have hq' := ((children c' hc').mem_terminals hr').2
      rw [hl] at hq
      rw [hl'] at hq'
      have he : p ++ [s] = p ++ [s'] :=
        (List.prefix_of_prefix_length_le hq hq' (by simp)).eq_of_length (by simp)
      rw [hl, hl', List.singleton_inj.1 (List.append_cancel_left he)]
    · subst he
      obtain ⟨c, hc, hrc⟩ := List.mem_flatMap.1 hr'
      obtain ⟨s, _, hl⟩ := placed.label_of_mem hc
      have hq := ((children c hc).mem_terminals hrc).2.length_le
      rw [(placed.of_route_eq_some (Option.mem_toList.1 hr)).2, hl, List.length_append] at hq
      exact Nat.not_succ_le_self _ hq

end Node

namespace Tree

open Routes

variable {ε : Type} {t : Tree ε}

theorem Sound.length_reached (ht : t.Sound) (q : List Text) :
    (t.root.reached q).length = if q = [] ∨ ∃ r ∈ t.routes, q <+: r.raws then 1 else 0 := by
  rcases ht.grown.reached_cases q with ⟨m, ss, hreach, rfl, -, hthrough⟩ | ⟨hreach, hne, hno⟩
  · rw [hreach, if_pos]
    · rfl
    · exact hthrough.imp (fun h => by simp [h]) fun ⟨r, hr, hq⟩ => ⟨r, hr, hq.map Segment.raw⟩
  · rw [hreach, if_neg]
    · rfl
    · rintro (rfl | ⟨r, hr, hq⟩)
      · exact hne rfl
      · exact hno r hr List.nil_prefix hq

theorem Sound.grown_of_mem_reached (ht : t.Sound) {q : List Text} {n : Node ε}
    (hn : n ∈ t.root.reached q) :
    ∃ ss, ss.map Segment.raw = q ∧ Node.Grown t.routes ss n ∧
      ∀ r ∈ t.routes, q <+: r.raws → ss <+: r.segments := by
  rcases ht.grown.reached_cases q with ⟨m, ss, hreach, rfl, hg, hthrough⟩ | ⟨hreach, -, -⟩
  · obtain rfl := List.mem_singleton.1 (hreach ▸ hn)
    refine ⟨ss, rfl, hg, fun r _ hq => ?_⟩
    rcases hthrough with rfl | ⟨r₀, _, hq₀⟩
    · exact List.nil_prefix
    · exact Route.prefix_of_raws hq₀ hq
  · simp [hreach] at hn

theorem Sound.route_of_mem_reached (ht : t.Sound) {q : List Text} {n : Node ε}
    (hn : n ∈ t.root.reached q) (r : Route ε) :
    n.route = some r ↔ r ∈ t.routes ∧ r.raws = q := by
  obtain ⟨ss, rfl, hg, hss⟩ := ht.grown_of_mem_reached hn
  constructor
  · intro he
    obtain ⟨hr, rfl⟩ := hg.placed.of_route_eq_some he
    exact ⟨hr, rfl⟩
  · rintro ⟨hr, hq⟩
    have hp : ss <+: r.segments := hss r hr (hq ▸ List.prefix_refl _)
    have hlen : ss.length = r.segments.length := by
      simpa [Route.raws] using congrArg List.length hq.symm
    have hsegs : ss = r.segments := hp.eq_of_length hlen
    exact hg.placed.route_of_segments ht.distinct hr hsegs.symm

theorem Sound.nodup_raws (ht : t.Sound) : (t.routes.map Route.raws).Nodup := by
  have hraws : t.routes.map Route.raws = (t.routes.map Route.segments).map (·.map Segment.raw) := by
    rw [List.map_map]
    rfl
  rw [hraws]
  refine ht.distinct.map_on fun ss hss ss' hss' he => ?_
  obtain ⟨r, _, rfl⟩ := List.mem_map.1 hss
  obtain ⟨r', _, rfl⟩ := List.mem_map.1 hss'
  exact Segment.eq_of_raws r.regular.ofRaw r'.regular.ofRaw he

theorem Sound.terminals_perm (ht : t.Sound) : t.root.terminals.Perm t.routes := by
  refine (List.perm_ext_iff_of_nodup ht.grown.nodup_terminals (.of_map _ ht.distinct)).2 fun r => ?_
  exact ⟨fun hr => (ht.grown.mem_terminals hr).1,
    fun hr => ht.grown.terminals_mem ht.distinct hr List.nil_prefix⟩

/-- The nodes of a tree are the prefix tree of its routes, and its routes are the calls that were
accepted, in order.  The root is there before any route is. -/
theorem ordered_prefix_tree (registry : Registry) (selector : Text) (calls : List (Route ε)) :
    let t := (Tree.empty registry selector).attemptAll calls
    t.routes = (Tree.empty registry selector).accepted calls ∧
      (∀ r ∈ t.routes, Pattern.parse r.pattern = .ok r.segments) ∧
      (∀ q : List Text, (t.root.reached q).length =
        if q = [] ∨ ∃ r ∈ t.routes, q <+: r.raws then 1 else 0) ∧
      (∀ q : List Text, ∀ n ∈ t.root.reached q,
        ((n.children.map Node.raw).Pairwise fun a b =>
          earliest t.routes (q ++ [a]) < earliest t.routes (q ++ [b])) ∧
        (∀ r, n.route = some r ↔ r ∈ t.routes ∧ r.raws = q) ∧
        ∀ r ∈ t.routes, q <+: r.raws → n.label = (r.segments.take q.length).getLast?) ∧
      (t.routes.map Route.raws).Nodup ∧ t.root.terminals.Perm t.routes := by
  intro t
  have ht : t.Sound := ((Reachable.empty registry selector).attemptAll calls).sound
  refine ⟨routes_attemptAll _ calls, fun r hr => Pattern.parse_of_read (ht.read r hr),
    ht.length_reached, fun q n hn => ⟨?_, ?_, ?_⟩, ht.nodup_raws, ht.terminals_perm⟩
  · obtain ⟨ss, rfl, hg, -⟩ := ht.grown_of_mem_reached hn
    exact hg.placed.pairwise_raws
  · exact ht.route_of_mem_reached hn
  · intro r hr hq
    obtain ⟨ss, rfl, hg, hss⟩ := ht.grown_of_mem_reached hn
    have htake : ss = r.segments.take ss.length := List.prefix_iff_eq_take.1 (hss r hr hq)
    rw [hg.placed.label, List.length_map, ← htake]

/-- No route begins with the empty path as long as none is registered, but the root is there. -/
theorem reached_root_without_routes :
    ¬∀ (calls : List (Route Controller)) (q : List Text),
      let t := (Tree.empty ∅ usualSelector).attemptAll calls
      t.root.reached q ≠ [] ↔ ∃ r ∈ t.routes, q <+: r.raws := by
  intro h
  have := (h [] []).1 nofun
  simp [attemptAll, Tree.empty] at this

end Tree

end PathRouting
