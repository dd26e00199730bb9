import PathRouting.Proofs.Tree.PrefixTree
import PathRouting.Proofs.Tree.Verdict

/-! # The shape of a tree

The depth of a node counts the levels above it, and its height the levels from it down, unless there
is a rest marker among them: that makes the height unbounded, and nothing else does.  A rest marker
stands alone, and a path down the tree can only end at a node with a route.
-/

namespace PathRouting

namespace Node

open Routes

variable {ε : Type} {rs : List (Route ε)} {p q : List Segment} {n m c : Node ε} {r : Route ε}
  {d : Nat}

/-- A node is so many levels below another one. -/
inductive Below : Nat → Node ε → Node ε → Prop
  | self (n : Node ε) : Below 0 n n
  | child {d : Nat} {n c m : Node ε} (mem : c ∈ n.children) (below : Below d c m) :
      Below (d + 1) n m

/-- A node is a rest marker, or there is one below it. -/
def HasRest (n : Node ε) : Prop := ∃ d m, Below d n m ∧ m.isRest = true

theorem Grown.of_below (h : Grown rs p n) (hm : Below d n m) :
    ∃ q, q.length = d ∧ Grown rs (p ++ q) m ∧ (q = [] ∨ ∃ r ∈ rs, p ++ q <+: r.segments) := by
  induction hm generalizing p with
  | self n => exact ⟨[], rfl, by simpa using h, .inl rfl⟩
  | child hc _ ih =>
    obtain ⟨s, hs, hl⟩ := h.placed.label_of_mem hc
    obtain ⟨q, hlen, hg, hq⟩ := ih (h.child_of_label hc hl)
    rw [List.append_assoc, List.singleton_append] at hg hq
    refine ⟨s :: q, by simp [hlen], hg, .inr ?_⟩
    rcases hq with rfl | hthrough
    · exact mem_nexts.1 hs
    · exact hthrough

theorem Grown.exists_below (h : Grown rs p n) (hr : r ∈ rs) (hq : p ++ q <+: r.segments) :
    ∃ m, Below q.length n m ∧ Grown rs (p ++ q) m := by
  induction q generalizing n p with
  | nil => exact ⟨n, .self n, by simpa using h⟩
  | cons s q ih =>
    rw [← List.singleton_append, ← List.append_assoc] at hq ⊢
    obtain ⟨c, hc, hl⟩ :=
      h.placed.exists_child (mem_nexts.2 ⟨r, hr, (List.prefix_append ..).trans hq⟩)
    obtain ⟨m, hm, hg⟩ := ih (h.child_of_label hc hl) hq
    exact ⟨m, .child hc hm, hg⟩

/-- There are as many levels below a node as some route has segments left there. -/
theorem Grown.exists_below_iff (h : Grown rs p n) : (∃ m, Below d n m) ↔
    d = 0 ∨ ∃ r ∈ rs, p <+: r.segments ∧ p.length + d ≤ r.segments.length := by
  constructor
  · rintro ⟨m, hm⟩
    obtain ⟨q, rfl, -, rfl | ⟨r, hr, hq⟩⟩ := h.of_below hm
    · exact .inl rfl
    · exact .inr ⟨r, hr, (List.prefix_append p q).trans hq, by simpa using hq.length_le⟩
  · rintro (rfl | ⟨r, hr, ⟨more, hmore⟩, hlen⟩)
    · exact ⟨n, .self n⟩
    · have hd : (more.take d).length = d := by
        rw [← hmore, List.length_append] at hlen
        rw [List.length_take]
        omega
      have hq : p ++ more.take d <+: r.segments :=
        hmore ▸ (List.prefix_append_right_inj p).2 (List.take_prefix d more)
      obtain ⟨m, hm, -⟩ := h.exists_below hr hq
      exact ⟨m, hd ▸ hm⟩

theorem Grown.hasRest_of_route (h : Grown rs p n) (hr : r ∈ rs) (hp : p <+: r.segments)
    (hlast : r.segments.getLast? = some .rest) : n.HasRest := by
  obtain ⟨more, hmore⟩ := hp
  obtain ⟨m, hm, hg⟩ := h.exists_below (q := more) hr ⟨[], by simpa using hmore⟩
  refine ⟨_, m, hm, ?_⟩
  rw [isRest, hg.placed.label, hmore, hlast]
  rfl

theorem Grown.route_of_hasRest (h : Grown rs p n) (hp : ∃ r ∈ rs, p <+: r.segments)
    (hn : n.HasRest) : ∃ r ∈ rs, p <+: r.segments ∧ r.segments.getLast? = some .rest := by
  obtain ⟨d, m, hm, hrest⟩ := hn
  obtain ⟨q, -, hg, hq⟩ := h.of_below hm
  obtain ⟨r, hr, hq⟩ : ∃ r ∈ rs, p ++ q <+: r.segments := by
    rcases hq with rfl | hq
    · simpa using hp
    · exact hq
  have hlast : (p ++ q).getLast? = some .rest := hg.placed.label.symm.trans (label_of_isRest hrest)
  obtain ⟨front, hfront⟩ := List.getLast?_eq_some_iff.1 hlast
  rw [hfront] at hq
  refine ⟨r, hr, ?_, ?_⟩
  · exact (List.prefix_append p q).trans (hfront ▸ hq)
  · rw [Route.eq_of_rest_prefix hq, List.getLast?_concat]

theorem Grown.height_eq_unbounded_iff (h : Grown rs p n) (hne : p ≠ [])
    (hp : ∃ r ∈ rs, p <+: r.segments) : n.height = unbounded ↔ n.HasRest := by
  rw [h.placed.height]
  constructor
  · intro hheight
    by_contra hrest
    have hlt : Pattern.mostSegments < Routes.height rs p := by
      rw [hheight]
      decide
    obtain hzero | ⟨r, hr, hpr, hlong⟩ := lt_height.1 hlt
    · cases hzero
    · have hlast : r.segments.getLast? ≠ some .rest := mt (h.hasRest_of_route hr hpr) hrest
      have hlen := r.length_segments_le
      have hpos := List.length_pos_of_ne_nil hne
      rw [Route.heightFrom, if_neg hlast] at hlong
      omega
  · intro hrest
    obtain ⟨r, hr, hpr, hlast⟩ := h.route_of_hasRest hp hrest
    have hle := le_height hr hpr
    rw [Route.heightFrom, if_pos hlast] at hle
    exact Nat.le_antisymm (height_le rs p) hle

/-- Without a rest marker, the height of a node is the number of levels of its tree. -/
theorem Grown.lt_height_iff (h : Grown rs p n) (hrest : ¬n.HasRest) {k : Nat} :
    k < n.height ↔ ∃ m, Below k n m := by
  rw [h.placed.height, lt_height, h.exists_below_iff]
  refine or_congr_right (exists_congr fun r => ?_)
  refine and_congr_right fun hr => and_congr_right fun hp => ?_
  have hlast : r.segments.getLast? ≠ some .rest := mt (h.hasRest_of_route hr hp) hrest
  rw [Route.heightFrom, if_neg hlast]
  omega

theorem Grown.lt_raise_child (h : Grown rs p n) (hlast : p.getLast? ≠ some .rest) {k : Nat}
    (hk : k < n.height) : k = 0 ∨ ∃ c ∈ n.children, k < raise c.height := by
  rw [h.placed.height] at hk
  obtain rfl | ⟨r, hr, ⟨more, hmore⟩, hlt⟩ := lt_height.1 hk
  · exact .inl rfl
  cases more with
  | nil =>
    rw [List.append_nil] at hmore
    rw [Route.heightFrom, ← hmore, if_neg hlast] at hlt
    omega
  | cons s more =>
    have hs : p ++ [s] <+: r.segments := ⟨more, by simpa using hmore⟩
    obtain ⟨c, hc, hl⟩ := h.placed.exists_child (mem_nexts.2 ⟨r, hr, hs⟩)
    have hle := le_height hr hs
    rw [← (h.child_of_label hc hl).placed.height] at hle
    rw [← Route.raise_heightFrom hs] at hlt
    refine .inr ⟨c, hc, ?_⟩
    unfold raise at *
    omega

/-- A node other than a rest marker is one level higher than its highest child, up to the cap. -/
theorem Grown.height_eq (h : Grown rs p n) (hlast : p.getLast? ≠ some .rest) :
    n.height = (n.children.map height).max?.elim 1 raise := by
  have hone : 1 ≤ n.height := h.placed.height ▸ one_le_height rs p
  cases hmax : (n.children.map height).max? with
  | none =>
    have hleaf : n.children = [] := by simpa using hmax
    refine Nat.le_antisymm (Nat.le_of_not_lt fun hlt => ?_) hone
    obtain hzero | ⟨c, hc, -⟩ := h.lt_raise_child hlast hlt
    · cases hzero
    · simp [hleaf] at hc
  | some highest =>
    obtain ⟨hmem, hle⟩ := List.max?_eq_some_iff.1 hmax
    obtain ⟨c, hc, rfl⟩ := List.mem_map.1 hmem
    refine Nat.le_antisymm (Nat.le_of_not_lt fun hlt => ?_) (h.raise_child_le hc)
    simp only [Option.elim_some] at hlt
    obtain hzero | ⟨c', hc', hlt'⟩ := h.lt_raise_child hlast hlt
    · unfold raise unbounded at hzero
      omega
    · have := hle _ (List.mem_map_of_mem hc')
      unfold raise at hlt'
      omega

theorem Grown.route_of_leaf (h : Grown rs p n) (hp : ∃ r ∈ rs, p <+: r.segments)
    (hleaf : n.children = []) : n.route.isSome = true := by
  obtain ⟨r, hr, more, hmore⟩ := hp
  cases more with
  | nil =>
    rw [Option.isSome_iff_ne_none]
    intro hn
    exact h.placed.of_route_eq_none hn r hr (by simpa using hmore.symm)
  | cons s more =>
    obtain ⟨c, hc, -⟩ := h.placed.exists_child (mem_nexts.2 ⟨r, hr, more, by simpa using hmore⟩)
    simp [hleaf] at hc

end Node

namespace Routes

variable {ε : Type} {rs : List (Route ε)} {p : List Segment}

theorem nexts_rest (rs : List (Route ε)) (p : List Segment) : nexts rs (p ++ [.rest]) = [] := by
  refine List.eq_nil_iff_forall_not_mem.2 fun s hs => ?_
  obtain ⟨r, -, more, hmore⟩ := mem_nexts.1 hs
  have hlast : s :: more = [] := r.rest_last (q := p) (by simp [← hmore])
  cases hlast

theorem Clear.nexts_eq_rest (hclear : Clear rs) (hrest : .rest ∈ nexts rs p) :
    nexts rs p = [.rest] := by
  obtain ⟨r, hr, hq⟩ := mem_nexts.1 hrest
  have hall : ∀ s ∈ nexts rs p, s = .rest := by
    intro s hs
    obtain ⟨r', hr', hq'⟩ := mem_nexts.1 hs
    by_contra hne
    exact hclear r' hr' r hr ⟨p, s, .rest, hq', hq, hne, .inr rfl⟩
  have hlen : (nexts rs p).length ≤ 1 := by
    rw [← List.nodup_replicate (a := Segment.rest), ← List.eq_replicate_of_mem hall]
    exact nodup_nexts rs p
  obtain ⟨s, hs⟩ := List.length_eq_one_iff.1
    (Nat.le_antisymm hlen (List.length_pos_of_mem hrest))
  rw [hs, hall s (hs ▸ List.mem_singleton_self s)]

end Routes

namespace Node

open Routes

variable {ε : Type} {rs : List (Route ε)} {p : List Segment} {n c : Node ε}

/-- A rest marker has a route, and there is nothing below it or beside it. -/
theorem Grown.rest_alone (hclear : Clear rs) (h : Grown rs p n) (hc : c ∈ n.children)
    (hrest : c.isRest = true) :
    c.route.isSome = true ∧ c.children = [] ∧ n.children = [c] := by
  have hl := label_of_isRest hrest
  have hmem := h.placed.mem_nexts hc hl
  have hg := h.child_of_label hc hl
  have hleaf : c.children = [] := by
    have hlabels := hg.placed.labels
    rw [nexts_rest] at hlabels
    simpa using hlabels
  refine ⟨hg.route_of_leaf (mem_nexts.1 hmem) hleaf, hleaf, ?_⟩
  obtain ⟨c', hc'⟩ := h.placed.one_child (hclear.nexts_eq_rest hmem)
  rw [hc', List.mem_singleton] at hc
  rw [hc', hc]

/-- What holds of the nodes below the root of a tree, and of the root itself. -/
structure Shaped (top : Node ε) : Prop where
  depth : ∀ d n, Below d top n → n.depth = d ∧ d ≤ Pattern.mostSegments
  unbounded : ∀ d n, Below (d + 1) top n → (n.height = Node.unbounded ↔ n.HasRest)
  levels : ∀ d n, Below (d + 1) top n → ¬n.HasRest → ∀ k, k < n.height ↔ ∃ m, Below k n m
  root : top.height =
    (top.children.map height).max?.elim 1 fun highest => min (highest + 1) Node.unbounded
  raws : ∀ d n, Below d top n → (n.children.map raw).Nodup
  rest : ∀ d n, Below d top n → ∀ c ∈ n.children, c.isRest = true →
    c.route.isSome = true ∧ c.children = [] ∧ n.children = [c]
  leaf : ∀ d n, Below (d + 1) top n → n.children = [] → n.route.isSome = true

end Node

namespace Tree

open Node

variable {ε : Type} {t : Tree ε}

theorem Reachable.grown_of_below (h : t.Reachable) {d : Nat} {n : Node ε}
    (hn : Below (d + 1) t.root n) :
    ∃ q, q.length = d + 1 ∧ Grown t.routes q n ∧ ∃ r ∈ t.routes, q <+: r.segments := by
  obtain ⟨q, hlen, hg, rfl | hq⟩ := h.sound.grown.of_below hn
  · cases hlen
  · exact ⟨q, hlen, hg, hq⟩

/-- The depths and heights in a tree are exact, and its rest markers stand alone. -/
theorem root_shaped (h : t.Reachable) : t.root.Shaped where
  depth d n hn := by
    obtain ⟨q, rfl, hg, hq⟩ := h.sound.grown.of_below hn
    refine ⟨hg.placed.depth, ?_⟩
    rcases hq with rfl | ⟨r, -, hq⟩
    · exact Nat.zero_le _
    · exact Nat.le_trans hq.length_le r.length_segments_le
  unbounded d n hn := by
    obtain ⟨q, hlen, hg, hq⟩ := h.grown_of_below hn
    exact hg.height_eq_unbounded_iff (List.ne_nil_of_length_eq_add_one hlen) hq
  levels d n hn hrest k := by
    obtain ⟨q, -, hg, -⟩ := h.grown_of_below hn
    exact hg.lt_height_iff hrest
  root := h.sound.grown.height_eq nofun
  raws d n hn := by
    obtain ⟨q, -, hg, -⟩ := h.sound.grown.of_below hn
    exact hg.placed.nodup_raws
  rest d n hn c hc hrest := by
    obtain ⟨q, -, hg, -⟩ := h.sound.grown.of_below hn
    exact hg.rest_alone h.clear hc hrest
  leaf d n hn hleaf := by
    obtain ⟨q, -, hg, hq⟩ := h.grown_of_below hn
    exact hg.route_of_leaf hq hleaf

/-- A file has a level below it and no more. -/
theorem files_levels :
    files.Reachable ∧ files.root.Shaped ∧
      ∃ n ∈ files.root.children, (∃ m, Below 1 n m) ∧ ¬∃ m, Below 2 n m := by
  have hshaped := root_shaped files_reachable
  obtain ⟨n, hn, hheight⟩ : ∃ n ∈ files.root.children, n.height = 2 := by decide +kernel
  have hbelow : Below 1 files.root n := .child hn (.self n)
  have hrest : ¬n.HasRest := by
    rw [← hshaped.unbounded 0 n hbelow, hheight]
    decide
  have hlevels := hshaped.levels 0 n hbelow hrest
  rw [hheight] at hlevels
  exact ⟨files_reachable, hshaped, n, hn, (hlevels 1).1 (by decide), mt (hlevels 2).2 (by decide)⟩

end Tree

end PathRouting
