import PathRouting.Proofs.Tree.Grown

/-! # Grafting

A pattern without a fault is one that no route has yet.  Grafting it on a node grown from the routes
so far changes the nodes along the pattern and adds those that are missing; the result is grown from
the routes with the new one at the end.
-/

namespace PathRouting

namespace Node

open Routes

variable {ε : Type} {rs : List (Route ε)} {q : List Segment} {n : Node ε}

theorem label_graft (e : Route ε) (depth : Nat) (s : Segment) (ss : List Segment) (n : Node ε) :
    (n.graft e depth s ss).label = n.label := by
  cases ss <;> simp [graft]

theorem changeFirst_append {raw : Text} {change : Node ε → Node ε} {before after : List (Node ε)}
    {c : Node ε} (hb : ∀ b ∈ before, b.raw ≠ raw) (hc : c.raw = raw) :
    changeFirst raw change (before ++ c :: after) = before ++ change c :: after := by
  induction before with
  | nil => simp [changeFirst, hc]
  | cons b before ih =>
    have ⟨hb, hbs⟩ := List.forall_mem_cons.1 hb
    simp [changeFirst, hb, ih hbs]

theorem heightOf_append {raw : Text} {before after : List (Node ε)} {c : Node ε}
    (hb : ∀ b ∈ before, b.raw ≠ raw) (hc : c.raw = raw) :
    heightOf raw (before ++ c :: after) = c.height := by
  have hn : before.find? (·.raw == raw) = none := by simpa using hb
  simp [heightOf, List.find?_append, hn, hc]

theorem fault?_of_child {s : Segment} {ss : List Segment} {c : Node ε}
    (hc : n.child? s.raw = some c) (hf : n.fault? s ss = none) :
    (ss = [] ∧ c.route = none) ∨ ∃ s' ss', ss = s' :: ss' ∧ c.fault? s' ss' = none := by
  rw [fault?.eq_def, hc] at hf
  cases ss with
  | nil =>
    left
    simpa using hf
  | cons s' ss' =>
    right
    dsimp only at hf
    split at hf
    · cases hf
    · exact ⟨s', ss', rfl, hf⟩

theorem Grown.of_child? (h : Grown rs q n) {s : Segment} {c : Node ε}
    (hs : Segment.ofRaw? s.raw = some s) (hc : n.child? s.raw = some c) :
    c ∈ n.children ∧ c.label = some s ∧ Grown rs (q ++ [s]) c := by
  obtain ⟨hm, hl⟩ := h.placed.child?_eq_some hs hc
  exact ⟨hm, hl, h.child_of_label hm hl⟩

theorem Grown.fresh (h : Grown rs q n) {s : Segment} {ss : List Segment}
    (hs : Segment.ofRaw? s.raw = some s) (hss : ∀ t ∈ ss, Segment.ofRaw? t.raw = some t)
    (hf : n.fault? s ss = none) : ending rs (q ++ s :: ss) = none := by
  induction ss generalizing q n s with
  | nil =>
    cases hc : n.child? s.raw with
    | none =>
      have hn := h.placed.child?_eq_none hc
      exact ending_of_untouched fun r hr hq => hn (mem_nexts.2 ⟨r, hr, hq⟩)
    | some c =>
      obtain ⟨-, -, hg⟩ := h.of_child? hs hc
      obtain ⟨-, hr⟩ | ⟨_, _, he, _⟩ := fault?_of_child hc hf
      · exact hg.placed.route.symm.trans hr
      · cases he
  | cons t ss ih =>
    cases hc : n.child? s.raw with
    | none =>
      have hn := h.placed.child?_eq_none hc
      exact ending_of_untouched fun r hr hq =>
        hn (mem_nexts.2 ⟨r, hr, List.IsPrefix.trans ⟨t :: ss, by simp⟩ hq⟩)
    | some c =>
      obtain ⟨-, -, hg⟩ := h.of_child? hs hc
      obtain ⟨he, _⟩ | ⟨t', ss', he, hf⟩ := fault?_of_child hc hf
      · cases he
      · obtain ⟨rfl, rfl⟩ := List.cons_eq_cons.1 he
        have ⟨ht, hss⟩ := List.forall_mem_cons.1 hss
        simpa using ih hg ht hss hf

/-- A node whose children are grown from one route more is itself grown from it. -/
theorem Grown.withChild (h : Grown rs q n) {e : Route ε} {s : Segment} {ss : List Segment}
    (he : e.segments = q ++ s :: ss) {before after : List (Node ε)} {c : Node ε}
    (hlabels : (before ++ c :: after).map Node.label = (nexts (rs ++ [e]) q).map some)
    (hb : ∀ b ∈ before, b.raw ≠ s.raw) (hl : c.label = some s)
    (hc : Grown (rs ++ [e]) (q ++ [s]) c)
    (hold : ∀ b ∈ before ++ after, b ∈ n.children ∧ b.label ≠ some s) :
    Grown (rs ++ [e]) q (n.withChild s.raw (before ++ c :: after)) := by
  have hp := h.placed
  have hq : q ++ [s] <+: e.segments := ⟨ss, by simp [he]⟩
  have hs : s ∈ nexts (rs ++ [e]) q := mem_nexts.2 ⟨e, by simp, hq⟩
  refine .mk ⟨?_, ?_, ?_, ?_, ?_⟩ fun b hmem => ?_
  · simpa using hp.label
  · simpa using hp.depth
  · have hle := raise_height_le hs
    -- the new route needs no more of this node than its child passes on
    have hge : e.heightFrom q ≤ Node.raise (Routes.height (rs ++ [e]) (q ++ [s])) :=
      calc
        e.heightFrom q = raise (e.heightFrom (q ++ [s])) := (Route.raise_heightFrom hq).symm
        _ ≤ raise (Routes.height (rs ++ [e]) (q ++ [s])) := by
          have : e ∈ rs ++ [e] := by simp
          have := le_height this hq
          unfold raise
          omega
    rw [height_withChild, heightOf_append hb (raw_of_label hl), hc.placed.height, hp.height]
    have hmax := height_concat (q := q) rs e
    rw [if_pos ((List.prefix_append q [s]).trans hq)] at hmax
    omega
  · have hne : e.segments ≠ q := by simp [he]
    rw [route_withChild, hp.route, ending_concat, if_neg hne, Option.or_none]
  · rw [children_withChild, hlabels]
  · rw [children_withChild] at hmem
    rcases List.mem_append.1 hmem with hmem | hmem
    · have ⟨hbn, hbl⟩ := hold b (List.mem_append_left _ hmem)
      exact h.frame_child he hbn hbl
    · rcases List.mem_cons.1 hmem with rfl | hmem
      · rw [hl]
        exact hc
      · have ⟨hbn, hbl⟩ := hold b (List.mem_append_right _ hmem)
        exact h.frame_child he hbn hbl

theorem Grown.graft_new (h : Grown rs q n) {e : Route ε} {s : Segment} {ss : List Segment}
    (he : e.segments = q ++ s :: ss) (hc : n.child? s.raw = none) :
    Grown (rs ++ [e]) q (n.withChild s.raw (n.children ++ [chain e (q.length + 1) s ss])) := by
  have hn := h.placed.child?_eq_none hc
  have hraw : ∀ b ∈ n.children, b.raw ≠ s.raw := by simpa [child?] using hc
  refine h.withChild he ?_ hraw (label_chain ..)
    (grown_chain he fun r hr hq => hn (mem_nexts.2 ⟨r, hr, hq⟩)) fun b hb => ?_
  · rw [List.map_append, h.placed.labels, nexts_concat, join, Route.next?_of_eq he]
    simp [hn, label_chain]
  · rw [List.append_nil] at hb
    exact ⟨hb, fun hl => hraw b hb (raw_of_label hl)⟩

theorem Grown.graft_old (h : Grown rs q n) {e : Route ε} {s : Segment} {ss : List Segment}
    (he : e.segments = q ++ s :: ss) {c : Node ε} (hc : n.child? s.raw = some c)
    {change : Node ε → Node ε} (hlabel : (change c).label = c.label)
    (hchange : Grown (rs ++ [e]) (q ++ [s]) (change c)) :
    Grown (rs ++ [e]) q (n.withChild s.raw (changeFirst s.raw change n.children)) := by
  have hs : Segment.ofRaw? s.raw = some s := e.regular.ofRaw s (by simp [he])
  obtain ⟨hm, hl⟩ := h.placed.child?_eq_some hs hc
  obtain ⟨hcr, before, after, hch, hb⟩ := List.find?_eq_some_iff_append.1 hc
  have hb : ∀ b ∈ before, b.raw ≠ s.raw := by simpa using hb
  have hlabels := h.placed.labels
  have hnext : nexts (rs ++ [e]) q = nexts rs q := by
    have hmem : s ∈ nexts rs q := h.placed.mem_nexts hm hl
    rw [nexts_concat, join, Route.next?_of_eq he]
    simp [hmem]
  rw [hch, changeFirst_append hb (raw_of_label hl)]
  refine h.withChild he ?_ hb (hlabel.trans hl) hchange fun b hmem => ?_
  · rw [hnext, ← hlabels, hch]
    simp [hlabel]
  · have hnd : ((before ++ c :: after).map Node.label).Nodup := by
      rw [← hch, hlabels]
      exact (nodup_nexts rs q).map fun _ _ => Option.some.inj
    refine ⟨hch ▸ by simp at hmem ⊢; tauto, fun hbl => ?_⟩
    rw [List.map_append, List.map_cons, hl] at hnd
    have hnot := (List.nodup_middle.1 hnd).notMem
    rw [← List.map_append] at hnot
    exact hnot (hbl ▸ List.mem_map_of_mem hmem)

theorem Grown.graft (h : Grown rs q n) {e : Route ε} {s : Segment} {ss : List Segment}
    (he : e.segments = q ++ s :: ss) (hf : n.fault? s ss = none) :
    Grown (rs ++ [e]) q (n.graft e (q.length + 1) s ss) := by
  have hs : Segment.ofRaw? s.raw = some s := e.regular.ofRaw s (by simp [he])
  induction ss generalizing q n s with
  | nil =>
    rw [Node.graft]
    cases hc : n.child? s.raw with
    | none => exact h.graft_new he hc
    | some c =>
      obtain ⟨hm, hl, hg⟩ := h.of_child? hs hc
      obtain ⟨-, hr⟩ | ⟨_, _, hnil, _⟩ := fault?_of_child hc hf
      · refine h.graft_old he hc (label_withRoute ..) (hg.withRoute he hr fun hrest => ?_)
        -- a rest marker that is there already has its route
        obtain rfl : s = .rest := by simpa using hrest
        obtain ⟨r, hmem, hq⟩ := exists_of_rest_mem_nexts (h.placed.mem_nexts hm hl)
        exact hg.placed.of_route_eq_none hr r hmem hq
      · cases hnil
  | cons t ss ih =>
    rw [Node.graft]
    cases hc : n.child? s.raw with
    | none => exact h.graft_new he hc
    | some c =>
      obtain ⟨-, -, hg⟩ := h.of_child? hs hc
      obtain ⟨hnil, _⟩ | ⟨t', ss', hcons, hf⟩ := fault?_of_child hc hf
      · cases hnil
      · obtain ⟨rfl, rfl⟩ := List.cons_eq_cons.1 hcons
        have hg := ih hg (by simp [he]) hf (e.regular.ofRaw t (by simp [he]))
        rw [List.length_append, List.length_singleton] at hg
        exact h.graft_old he hc (label_graft ..) hg

end Node

end PathRouting
