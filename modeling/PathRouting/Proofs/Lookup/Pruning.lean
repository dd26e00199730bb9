import PathRouting.Proofs.Lookup.Search

/-! # Pruning by height

A walk passes over a node when the path is too long to end in the tree below it.  A walk that
enters every node finds nothing in those it could have passed over, so it ends with the same hit
and the same bindings; only what it reports on the way may differ.
-/

namespace PathRouting

namespace Node

open Routes

variable {ε : Type} {rs : List (Route ε)} {v : Sight} {p : List Segment} {left : List Text}
  {n : Node ε} {trail trail' : Trail}

/-! ## Heights -/

theorem Grown.child_depth (h : Grown rs p n) {c : Node ε} (hc : c ∈ n.children) :
    c.depth = n.depth + 1 := by
  obtain ⟨s, -, hl⟩ := h.placed.label_of_mem hc
  rw [(h.child_of_label hc hl).placed.depth, h.placed.depth, List.length_append,
    List.length_singleton]

theorem Grown.child_not_reaches (h : Grown rs p n) {c : Node ε} (hc : c ∈ n.children)
    {length : Nat} (hreach : reaches n.depth n.height length = false) :
    reaches c.depth c.height length = false := by
  have hdepth := h.child_depth hc
  have hraise : raise c.height ≤ n.height := h.raise_child_le hc
  have hcap : n.height ≤ unbounded := h.placed.height ▸ height_le rs p
  simp only [reaches, Bool.or_eq_false_iff, beq_eq_false_iff_ne, decide_eq_false_iff_not] at *
  unfold raise at hraise
  constructor <;> omega

theorem Placed.route_of_not_reaches (h : Placed rs p n) (hl : n.label = some .rest) {length : Nat}
    (hreach : reaches n.depth n.height length = false) : n.route = none := by
  cases hr : n.route with
  | none => rfl
  | some r =>
    obtain ⟨hmem, hs⟩ := h.of_route_eq_some hr
    have hge : unbounded ≤ n.height := by
      have hle := le_height hmem (q := p) (hs ▸ List.prefix_refl _)
      rwa [Route.heightFrom, hs, if_pos (h.label.symm.trans hl), ← h.height] at hle
    have hcap : n.height ≤ unbounded := h.height ▸ height_le rs p
    simp [reaches, Nat.le_antisymm hcap hge] at hreach

/-! ## What was reported plays no part -/

/-- The same hit with the same bindings, whatever was reported. -/
structure Alike (a b : Option (Hit ε) × Trail) : Prop where
  hit : a.1 = b.1
  bindings : a.2.bindings = b.2.bindings

theorem Alike.orCutBack {a b : Option (Hit ε) × Trail} (h : Alike a b) (mark : Nat) :
    Alike (orCutBack mark a) (orCutBack mark b) := by
  obtain ⟨hit, trail⟩ := a
  obtain ⟨hit', trail'⟩ := b
  obtain ⟨rfl, hb⟩ := h
  cases hit with
  | some hit => exact ⟨rfl, hb⟩
  | none => exact ⟨rfl, by simp [Node.orCutBack, Trail.cutBack, show trail.bindings = _ from hb]⟩

variable [Endpoint ε]

theorem Grown.fallBack_alike {mark : Nat} (h : Grown rs p n)
    (hb : trail.bindings = trail'.bindings) :
    Alike (fallBack v mark n trail) (fallBack v mark n trail') := by
  have hcut {trail trail' : Trail} (hb : trail.bindings = trail'.bindings) :
      (trail.cutBack mark).bindings = (trail'.cutBack mark).bindings := by
    simp [Trail.cutBack, hb]
  induction h generalizing trail trail' with
  | @mk p n placed children ih =>
    by_cases hone : ∃ c, n.children = [c]
    · obtain ⟨c, hc⟩ := hone
      rw [fallBack_of_one hc, fallBack_of_one hc]
      cases c.optional? with
      | none => exact ⟨rfl, hcut hb⟩
      | some b =>
        have hbind : (trail.bind b).bindings = (trail'.bind b).bindings := by simp [Trail.bind, hb]
        cases c.route with
        | none => exact ih c (hc ▸ List.mem_singleton_self c) hbind
        | some r =>
          dsimp only
          rw [hbind]
          split
          · exact ⟨rfl, hbind⟩
          · exact ⟨rfl, hcut hbind⟩
    · rw [fallBack_of_not_one hone, fallBack_of_not_one hone]
      exact ⟨rfl, hcut hb⟩

theorem Grown.settle_alike (h : Grown rs p n) (hb : trail.bindings = trail'.bindings) :
    Alike (settle v n trail) (settle v n trail') := by
  unfold settle
  cases n.route with
  | some r => exact ⟨rfl, hb⟩
  | none =>
    cases n.children.find? isRest with
    | some c => exact ⟨rfl, hb⟩
    | none =>
      rw [hb]
      exact h.fallBack_alike hb

theorem Grown.enter_alike {below below' : List Text → Trail → Option (Hit ε) × Trail}
    (h : Grown rs p n) (hb : trail.bindings = trail'.bindings)
    (hbelow : ∀ t left', left = t :: left' → ∀ trail trail', trail.bindings = trail'.bindings →
      Alike (below left' trail) (below' left' trail')) :
    Alike (enter v below n left trail) (enter v below' n left trail') := by
  unfold enter
  split
  · exact ⟨rfl, hb⟩
  · rename_i s t left hs hl
    rw [hb]
    dsimp only
    split
    · refine Alike.orCutBack ?_ _
      split
      · exact h.settle_alike rfl
      · exact hbelow t left rfl _ _ rfl
    · exact ⟨rfl, rfl⟩
    · exact ⟨rfl, rfl⟩
  · exact ⟨rfl, hb⟩

/-! ## Walks that enter every node -/

mutual

/-- Descend into a node however high the tree below it is. -/
def descendUnpruned (v : Sight) : Node ε → List Text → Trail → Option (Hit ε) × Trail
  | mk label depth height route children, left, trail =>
    enter v (fun left trail => firstHitUnpruned v children left trail)
      (mk label depth height route children) left trail
termination_by structural n => n

def firstHitUnpruned (v : Sight) : List (Node ε) → List Text → Trail → Option (Hit ε) × Trail
  | [], _, trail => (none, trail)
  | n :: ns, left, trail =>
    match descendUnpruned v n left trail with
    | (some hit, trail) => (some hit, trail)
    | (none, trail) => firstHitUnpruned v ns left trail
termination_by structural ns => ns

end

def walkUnpruned (v : Sight) (n : Node ε) : List Text → Option (Hit ε) × Trail
  | [] => settle v n .start
  | left => firstHitUnpruned v n.children left .start

theorem descendUnpruned_eq : descendUnpruned v n left trail =
    enter v (firstHitUnpruned v n.children) n left trail := by
  cases n
  rw [descendUnpruned]
  rfl

theorem firstHitUnpruned_of_none {cs : List (Node ε)}
    (hcs : ∀ c ∈ cs, ∀ trail, Alike (descendUnpruned v c left trail) (none, trail)) :
    Alike (firstHitUnpruned v cs left trail) (none, trail) := by
  induction cs generalizing trail with
  | nil => exact ⟨rfl, rfl⟩
  | cons c cs ih =>
    obtain ⟨hc, hcs⟩ := List.forall_mem_cons.1 hcs
    rw [firstHitUnpruned]
    have hfirst := hc trail
    generalize descendUnpruned v c left trail = a at hfirst ⊢
    obtain ⟨hit, trail'⟩ := a
    obtain ⟨rfl, hb⟩ := hfirst
    have hmore : Alike (firstHitUnpruned v cs left trail') (none, trail') := ih hcs
    exact ⟨hmore.hit, hmore.bindings.trans hb⟩

theorem enter_alike_none {below : List Text → Trail → Option (Hit ε) × Trail} {t : Text}
    (hroute : n.label = some .rest → n.route = none) (hne : left ≠ [])
    (hbelow : ∀ trail, Alike (below left trail) (none, trail)) :
    Alike (enter v below n (t :: left) trail) (none, trail) := by
  by_cases hrest : n.label = some .rest
  · rw [enter_of_rest hrest, hroute hrest]
    exact ⟨rfl, rfl⟩
  cases hl : n.label with
  | none => simp [enter, hl, Alike.mk]
  | some s =>
    have hs : s ≠ .rest := fun hs => hrest (hs ▸ hl)
    by_cases hfit : ∃ bs, Fit.segment v.registry s t [] = (.fits, bs)
    · obtain ⟨bs, hfit⟩ := hfit
      rw [enter_of_fits hl hs hfit, List.isEmpty_eq_false_iff.2 hne]
      -- what the segment has bound is cut off again
      obtain ⟨hhit, hb⟩ := (hbelow ⟨trail.bindings ++ bs, trail.events⟩).orCutBack
        trail.bindings.length
      exact ⟨hhit, hb.trans (by simp [orCutBack, Trail.cutBack])⟩
    · obtain ⟨events, he⟩ := enter_of_misfit hl hs (not_exists.1 hfit)
      rw [he]
      exact ⟨rfl, rfl⟩

/-- A walk that enters a node from which no leaf is deep enough comes back with nothing. -/
theorem Grown.descendUnpruned_of_not_reaches (h : Grown rs p n)
    (hlen : n.depth + left.length = v.length + 1)
    (hreach : reaches n.depth n.height v.length = false) :
    Alike (descendUnpruned v n left trail) (none, trail) := by
  induction h generalizing left trail with
  | @mk p n placed children ih =>
    have hg : Grown rs p n := .mk placed children
    have hheight : 1 ≤ n.height := placed.height ▸ one_le_height rs p
    have hlong : 2 ≤ left.length := by
      simp only [reaches, Bool.or_eq_false_iff, decide_eq_false_iff_not] at hreach
      omega
    obtain ⟨t, left, rfl⟩ := List.exists_cons_of_length_pos (by omega : 0 < left.length)
    have hne : left ≠ [] := by
      rintro rfl
      simp at hlong
    rw [descendUnpruned_eq]
    apply enter_alike_none (fun hl => placed.route_of_not_reaches hl hreach) hne
    intro trail
    apply firstHitUnpruned_of_none
    intro c hc trail
    apply ih c hc _ (hg.child_not_reaches hc hreach)
    rw [hg.child_depth hc, ← hlen, List.length_cons]
    omega

theorem firstHit_alike {cs : List (Node ε)} (hb : trail.bindings = trail'.bindings)
    (hcs : ∀ c ∈ cs, ∀ trail trail', trail.bindings = trail'.bindings →
      Alike (descend v c left trail) (descendUnpruned v c left trail')) :
    Alike (firstHit v cs left trail) (firstHitUnpruned v cs left trail') := by
  induction cs generalizing trail trail' with
  | nil => exact ⟨rfl, hb⟩
  | cons c cs ih =>
    obtain ⟨hc, hcs⟩ := List.forall_mem_cons.1 hcs
    rw [firstHit, firstHitUnpruned]
    have hfirst := hc trail trail' hb
    generalize descend v c left trail = a at hfirst ⊢
    generalize descendUnpruned v c left trail' = b at hfirst ⊢
    obtain ⟨hit, trail⟩ := a
    obtain ⟨hit', trail'⟩ := b
    obtain ⟨rfl, hb⟩ := hfirst
    cases hit with
    | some hit => exact ⟨rfl, hb⟩
    | none => exact ih hb hcs

/-- A walk through a node comes to the same whether or not it passes over nodes below. -/
theorem Grown.descend_alike (h : Grown rs p n) (hlen : n.depth + left.length = v.length + 1)
    (hb : trail.bindings = trail'.bindings) :
    Alike (descend v n left trail) (descendUnpruned v n left trail') := by
  induction h generalizing left trail trail' with
  | @mk p n placed children ih =>
    have hg : Grown rs p n := .mk placed children
    cases hreach : reaches n.depth n.height v.length with
    | false =>
      rw [descend_of_not_reaches hreach]
      have hnone : Alike (descendUnpruned v n left trail') (none, trail') :=
        hg.descendUnpruned_of_not_reaches hlen hreach
      exact ⟨hnone.hit.symm, hb.trans hnone.bindings.symm⟩
    | true =>
      rw [descend_of_reaches hreach, descendUnpruned_eq]
      apply hg.enter_alike hb
      rintro t left rfl trail trail' hb
      apply firstHit_alike hb
      intro c hc trail trail' hb
      apply ih c hc _ hb
      rw [hg.child_depth hc, ← hlen, List.length_cons]
      omega

theorem Grown.walk_alike (h : Grown rs [] n) (hlen : left.length = v.length) :
    Alike (walk v n left) (walkUnpruned v n left) := by
  cases left with
  | nil => exact h.settle_alike rfl
  | cons t left =>
    apply firstHit_alike rfl
    intro c hc trail trail' hb
    apply (h.child hc).descend_alike _ hb
    rw [h.child_depth hc, h.placed.depth, hlen]
    simp [Nat.add_comm]

end Node

namespace Tree

variable {ε : Type} [Endpoint ε] {t : Tree ε}

/-- The answer to a request when no node is passed over on account of its height. -/
def lookupUnpruned (t : Tree ε) (method : Method) (path : Text) : Outcome ε :=
  match Path.segments path with
  | none => .malformed path
  | some s =>
    let (hit, trail) := t.root.walkUnpruned (t.sight method path s) s
    hit.elim .notFound fun hit => .matched (.ofHit t.selector hit trail.bindings)

/-- Passing over nodes by their height never changes an answer. -/
theorem lookup_eq_unpruned (h : t.Reachable) (method : Method) (path : Text) :
    t.lookup method path = t.lookupUnpruned method path := by
  unfold lookupUnpruned
  cases hs : Path.segments path with
  | none => exact lookup_of_malformed hs
  | some s =>
    have hlen : s.length = (t.sight method path s).length := rfl
    obtain ⟨hhit, hb⟩ := h.sound.grown.walk_alike hlen
    rw [lookup_eq_walk hs, hhit, hb]

/-- What lies below page 7 is too deep for the pages by number, and is found past them. -/
theorem lookup_belowPage_unpruned :
    pages.Reachable ∧ Path.segments "/page/7/a/b".toList =
        some ["page".toList, "7".toList, "a".toList, "b".toList] ∧
      pages.lookupUnpruned .get "/page/7/a/b".toList = .matched
        ⟨⟨"/page/<name>/*pathInfo".toList, .of "named".toList⟩,
          .ofList [("name".toList, "7".toList), ("pathInfo".toList, "a/b".toList)], none⟩ := by
  refine ⟨pages_reachable, by decide +kernel, ?_⟩
  rw [← lookup_eq_unpruned pages_reachable]
  decide +kernel

end Tree

end PathRouting
