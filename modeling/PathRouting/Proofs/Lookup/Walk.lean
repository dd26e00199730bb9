import PathRouting.Proofs.Lookup.Defaults
import PathRouting.Proofs.Lookup.Fit

/-! # Walks find the first accepting route

A walk through a grown node answers with the route that comes first among those that go through the
node and accept.  It puts the bindings of that route on the trail, and leaves the trail as it was
when no route accepts.
-/

namespace PathRouting

namespace Routes

variable {ε : Type} [Endpoint ε] {rs : List (Route ε)} {v : Sight} {p walked : List Segment}
  {left : List Text} {r : Route ε} {bs : List Binding} {rest : Option Text}

theorem acceptsAfter_nil : AcceptsAfter rs v p [] r bs rest ↔
    r ∈ rs ∧ ((r.segments = p ∧ bs = [] ∧ rest = none) ∨
      (r.segments = p ++ [.rest] ∧ bs = [] ∧ rest = some (v.restText []) ∧
        ∀ r' ∈ rs, r'.segments ≠ p) ∨
      (rest = none ∧ Defaulted rs v p [] r bs)) := by
  constructor
  · rintro ⟨hr, todo, hs, ha⟩
    refine ⟨hr, ?_⟩
    rcases ha.of_nil with ⟨rfl, rfl, rfl⟩ | ⟨rfl, rfl, rfl, hfree⟩ | ⟨hne, rfl, hl, hex⟩
    · exact .inl ⟨by simpa using hs, rfl, rfl⟩
    · exact .inr (.inl ⟨hs, rfl, rfl, hfree⟩)
    · exact .inr (.inr ⟨rfl, hr, ⟨todo, hne, hs, hl⟩, hex⟩)
  · rintro ⟨hr, ⟨rfl, rfl, rfl⟩ | ⟨hs, rfl, rfl, hfree⟩ | ⟨rfl, -, ⟨back, hne, hs, hl⟩, hex⟩⟩
    · exact ⟨hr, [], (List.append_nil _).symm, .direct .nil⟩
    · exact ⟨hr, [.rest], hs, .rest .nil (by simpa using hfree)⟩
    · exact ⟨hr, back, hs, .defaults .nil hne (by simpa using hl) hex⟩

/-- A route through a segment accepts if the segment takes the next text and the route accepts what
is left then. -/
theorem acceptsAfter_cons {s : Segment} {t : Text} (hs : s ≠ .rest)
    (hr : walked ++ [s] <+: r.segments) : AcceptsAfter rs v walked (t :: left) r bs rest ↔
      ∃ bs₁ bs₂, bs = bs₁ ++ bs₂ ∧ Takes v.registry s t bs₁ ∧
        AcceptsAfter rs v (walked ++ [s]) left r bs₂ rest := by
  obtain ⟨more, hmore⟩ := hr
  constructor
  · rintro ⟨hmem, todo, htodo, ha⟩
    obtain rfl : todo = s :: more := by simpa [← hmore] using htodo.symm
    obtain ⟨bs₁, bs₂, rfl, htakes, ha⟩ := ha.of_cons hs
    exact ⟨bs₁, bs₂, rfl, htakes, hmem, more, hmore.symm, ha⟩
  · rintro ⟨bs₁, bs₂, rfl, htakes, hmem, todo, htodo, ha⟩
    exact ⟨hmem, s :: todo, by simpa using htodo, ha.cons htakes⟩

theorem not_acceptsAfter_of_not_reaches {s : Segment}
    (h : Node.reaches (walked.length + 1) (height rs (walked ++ [s])) v.length = false)
    (hlen : walked.length + left.length = v.length) (hr : walked ++ [s] <+: r.segments) :
    ¬AcceptsAfter rs v walked left r bs rest := by
  rintro ⟨hmem, todo, htodo, ha⟩
  have hheight := le_height hmem hr
  have hle := height_le rs (walked ++ [s])
  simp only [Node.reaches, Bool.or_eq_false_iff, beq_eq_false_iff_ne, decide_eq_false_iff_not] at h
  have hlast : r.segments.getLast? ≠ some .rest := by
    intro hrest
    rw [Route.heightFrom, if_pos hrest] at hheight
    exact h.1 (Nat.le_antisymm hle hheight)
  rw [Route.heightFrom, if_neg hlast, htodo] at hheight
  rcases ha.length_le with hrest | hlong
  · exact hlast (by simp [htodo, List.getLast?_append, hrest])
  · simp only [List.length_append, List.length_singleton] at hheight
    omega

end Routes

namespace Node

open Routes

variable {ε : Type} [Endpoint ε] {rs : List (Route ε)} {v : Sight} {p walked : List Segment}
  {left : List Text} {n : Node ε} {trail : Trail}

/-- The route `r` accepts, and any other that does comes after it. -/
structure First (rs : List (Route ε)) (v : Sight) (walked : List Segment) (left : List Text)
    (among : Route ε → Prop) (r : Route ε) (bs : List Binding) (rest : Option Text) : Prop where
  chosen : among r
  accepts : AcceptsAfter rs v walked left r bs rest
  first : ∀ r' bs' rest', among r' → AcceptsAfter rs v walked left r' bs' rest' →
    r' = r ∨ Precedes rs r r'

/-- What a walk from `trail` gives when it is a search among some routes. -/
def Answers (rs : List (Route ε)) (v : Sight) (walked : List Segment) (left : List Text)
    (among : Route ε → Prop) (trail : Trail) : Option (Hit ε) × Trail → Prop
  | (some hit, trail') => ∃ bs, trail'.bindings = trail.bindings ++ bs ∧
      First rs v walked left among hit.route bs hit.rest
  | (none, trail') => trail'.bindings = trail.bindings ∧
      ∀ r bs rest, among r → ¬AcceptsAfter rs v walked left r bs rest

theorem Answers.mono {among among' : Route ε → Prop} {result : Option (Hit ε) × Trail}
    (h : Answers rs v walked left among trail result) (hto : ∀ r, among r → among' r)
    (hof : ∀ r bs rest, AcceptsAfter rs v walked left r bs rest → among' r → among r) :
    Answers rs v walked left among' trail result := by
  match result, h with
  | (some hit, trail'), ⟨bs, hb, hfirst⟩ =>
    refine ⟨bs, hb, hto _ hfirst.chosen, hfirst.accepts, fun r bs' rest' hr ha => ?_⟩
    exact hfirst.first r bs' rest' (hof r bs' rest' ha hr) ha
  | (none, trail'), ⟨hb, hno⟩ =>
    exact ⟨hb, fun r bs rest hr ha => hno r bs rest (hof r bs rest ha hr) ha⟩

theorem Answers.step {s : Segment} {t : Text} {bs₁ : List Binding}
    {result : Option (Hit ε) × Trail} (hs : s ≠ .rest) (htakes : Takes v.registry s t bs₁)
    (h : Answers rs v (walked ++ [s]) left (fun _ => True)
      { trail with bindings := trail.bindings ++ bs₁ } result) :
    Answers rs v walked (t :: left) (walked ++ [s] <+: ·.segments) trail
      (orCutBack trail.bindings.length result) := by
  match result, h with
  | (some hit, trail'), ⟨bs, hb, hfirst⟩ =>
    have hthrough : walked ++ [s] <+: hit.route.segments := by
      obtain ⟨-, todo, htodo, -⟩ := hfirst.accepts
      exact ⟨todo, htodo.symm⟩
    refine ⟨bs₁ ++ bs, by rw [hb, List.append_assoc], hthrough,
      (acceptsAfter_cons hs hthrough).2 ⟨bs₁, bs, rfl, htakes, hfirst.accepts⟩, ?_⟩
    intro r bs' rest' hr ha
    obtain ⟨-, bs₂, -, -, ha⟩ := (acceptsAfter_cons hs hr).1 ha
    exact hfirst.first r bs₂ rest' trivial ha
  | (none, trail'), ⟨hb, hno⟩ =>
    refine ⟨by simp [Trail.cutBack, hb], fun r bs rest hr ha => ?_⟩
    obtain ⟨-, bs₂, -, -, ha⟩ := (acceptsAfter_cons hs hr).1 ha
    exact hno r bs₂ rest trivial ha

/-! ## Where the path ends -/

theorem Placed.own_answers (hd : (rs.map Route.segments).Nodup) (h : Placed rs p n) {r : Route ε}
    (hroute : n.route = some r) :
    Answers rs v p [] (fun _ => True) trail (some ⟨r, none⟩, trail) := by
  obtain ⟨hr, rfl⟩ := h.of_route_eq_some hroute
  have haccepts : AcceptsAfter rs v r.segments [] r [] none :=
    acceptsAfter_nil.2 ⟨hr, .inl ⟨rfl, rfl, rfl⟩⟩
  refine ⟨[], (List.append_nil _).symm, trivial, haccepts, fun r' bs' rest' _ ha => ?_⟩
  obtain ⟨hr', ⟨hs, -⟩ | ⟨-, -, -, hfree⟩ | ⟨-, hdef⟩⟩ := acceptsAfter_nil.1 ha
  · exact .inl (eq_of_segments hd hr' hr hs)
  · exact absurd rfl (hfree r hr)
  · exact absurd rfl (hdef.free r hr)

theorem Placed.rest_answers (hd : (rs.map Route.segments).Nodup) (h : Placed rs p n)
    (hroute : n.route = none) {r : Route ε} (hr : r ∈ rs) (hs : r.segments = p ++ [.rest]) :
    Answers rs v p [] (fun _ => True) trail (takeRest v (some r) [], trail) := by
  have hfree := h.of_route_eq_none hroute
  have haccepts : AcceptsAfter rs v p [] r [] (some (v.restText [])) :=
    acceptsAfter_nil.2 ⟨hr, .inr (.inl ⟨hs, rfl, rfl, hfree⟩)⟩
  refine ⟨[], (List.append_nil _).symm, trivial, haccepts, fun r' bs' rest' _ ha => ?_⟩
  obtain ⟨hr', ⟨hs', -⟩ | ⟨hs', -⟩ | ⟨-, hdef⟩⟩ := acceptsAfter_nil.1 ha
  · exact absurd hs' (hfree r' hr')
  · exact .inl (eq_of_segments hd hr' hr (hs'.trans hs.symm))
  · -- a rest marker has no default
    obtain ⟨s, b, hn, ho⟩ := hdef.nexts_eq
    have hrest : .rest ∈ nexts rs p := Routes.mem_nexts.2 ⟨r, hr, hs ▸ List.prefix_refl _⟩
    obtain rfl : .rest = s := List.mem_singleton.1 (hn ▸ hrest)
    cases ho

theorem Grown.fallBack_answers (hd : (rs.map Route.segments).Nodup) (h : Grown rs p n)
    (hroute : n.route = none) (hrest : .rest ∉ nexts rs p) :
    Answers rs v p [] (fun _ => True) trail (fallBack v trail.bindings.length n trail) := by
  have hfree := h.placed.of_route_eq_none hroute
  have honly : ∀ {r bs rest}, AcceptsAfter rs v p [] r bs rest → Defaulted rs v p [] r bs := by
    intro r bs rest ha
    obtain ⟨hr, ⟨hs, -⟩ | ⟨hs, -⟩ | ⟨-, hdef⟩⟩ := acceptsAfter_nil.1 ha
    · exact absurd hs (hfree r hr)
    · exact absurd (mem_nexts.2 ⟨r, hr, hs ▸ List.prefix_refl _⟩) hrest
    · exact hdef
  have hfalls : FallsBack rs v p trail.bindings [] (fallBack v trail.bindings.length n trail) :=
    h.fallsBack hd hroute (List.append_nil _).symm
  match fallBack v trail.bindings.length n trail, hfalls with
  | (some hit, trail'), ⟨hnone, bs, hb, hdef⟩ =>
    have haccepts : AcceptsAfter rs v p [] hit.route bs hit.rest :=
      acceptsAfter_nil.2 ⟨hdef.mem, .inr (.inr ⟨hnone, hdef⟩)⟩
    refine ⟨bs, by simpa using hb, trivial, haccepts, fun r' bs' rest' _ ha => ?_⟩
    obtain ⟨back, -, hs, hl⟩ := hdef.lapses
    obtain ⟨back', -, hs', hl'⟩ := (honly ha).lapses
    have hback := hl.unique hl' hdef.mem ha.1 hs hs'
    exact .inl (eq_of_segments hd ha.1 hdef.mem (hs'.trans (hback ▸ hs.symm)))
  | (none, trail'), ⟨hb, hno⟩ => exact ⟨hb, fun r bs rest _ ha => hno r bs (honly ha)⟩

theorem Grown.settle_answers (hd : (rs.map Route.segments).Nodup) (h : Grown rs p n) :
    Answers rs v p [] (fun _ => True) trail (settle v n trail) := by
  unfold settle
  cases hroute : n.route with
  | some r => exact h.placed.own_answers hd hroute
  | none =>
    rcases h.placed.find?_isRest with ⟨c, r, hc, hm, hl, hr, hs⟩ | ⟨hc, hrest⟩
    · have hcr : c.route = some r := (h.child_of_label hm hl).placed.route_of_segments hd hr hs
      rw [hc]
      dsimp only
      rw [hcr]
      exact h.placed.rest_answers hd hroute hr hs
    · rw [hc]
      exact h.fallBack_answers hd hroute hrest

/-! ## On the way -/

theorem Answers.of_bindings {among : Route ε → Prop} {trail' : Trail}
    {result : Option (Hit ε) × Trail} (h : Answers rs v p left among trail' result)
    (hb : trail'.bindings = trail.bindings) : Answers rs v p left among trail result := by
  match result, h with
  | (some hit, _), ⟨bs, hbs, hfirst⟩ => exact ⟨bs, by rw [hbs, hb], hfirst⟩
  | (none, _), ⟨hbs, hno⟩ => exact ⟨hbs.trans hb, hno⟩

theorem firstHit_answers {cs : List (Node ε)}
    (hcs : ∀ c ∈ cs, ∃ s, c.label = some s ∧ ∀ trail,
      Answers rs v p left (p ++ [s] <+: ·.segments) trail (descend v c left trail))
    (hord : cs.Pairwise fun a b =>
      earliest rs (p.map Segment.raw ++ [a.raw]) < earliest rs (p.map Segment.raw ++ [b.raw])) :
    Answers rs v p left (fun r => ∃ c ∈ cs, p ++ c.label.toList <+: r.segments) trail
      (firstHit v cs left trail) := by
  induction cs generalizing trail with
  | nil => exact ⟨rfl, fun r bs rest ⟨c, hc, _⟩ => by cases hc⟩
  | cons c cs ih =>
    obtain ⟨⟨s, hl, hc⟩, hcs'⟩ := List.forall_mem_cons.1 hcs
    obtain ⟨hlt, hord⟩ := List.pairwise_cons.1 hord
    rw [firstHit]
    match descend v c left trail, hc trail with
    | (some hit, trail'), ⟨bs, hb, hfirst⟩ =>
      refine ⟨bs, hb, ⟨c, List.mem_cons_self, by simpa [hl] using hfirst.chosen⟩,
        hfirst.accepts, ?_⟩
      rintro r bs' rest' ⟨c', hc', hr⟩ ha
      rcases List.mem_cons.1 hc' with rfl | hc'
      · exact hfirst.first r bs' rest' (by simpa [hl] using hr) ha
      · obtain ⟨s', hl', -⟩ := hcs' c' hc'
        have hraw := hlt c' hc'
        rw [raw_of_label hl, raw_of_label hl'] at hraw
        rw [hl'] at hr
        exact .inr ⟨_, s.raw, s'.raw, raws_prefix hfirst.chosen, raws_prefix hr, hraw⟩
    | (none, trail'), ⟨hb, hno⟩ =>
      refine ((ih hcs' hord).of_bindings hb).mono (fun r ⟨c', hc', hr⟩ =>
        ⟨c', List.mem_cons_of_mem _ hc', hr⟩) ?_
      rintro r bs rest ha ⟨c', hc', hr⟩
      rcases List.mem_cons.1 hc' with rfl | hc'
      · exact absurd ha (hno r bs rest (by simpa [hl] using hr))
      · exact ⟨c', hc', hr⟩

theorem Placed.firstHit_answers (h : Placed rs p n) (hne : left ≠ [])
    (hcs : ∀ c ∈ n.children, ∀ s trail, c.label = some s →
      Answers rs v p left (p ++ [s] <+: ·.segments) trail (descend v c left trail)) :
    Answers rs v p left (fun _ => True) trail (firstHit v n.children left trail) := by
  have hord := List.pairwise_map.1 h.pairwise_raws
  refine (Node.firstHit_answers (fun c hc => ?_) hord).mono (fun _ _ => trivial) ?_
  · obtain ⟨s, -, hl⟩ := h.label_of_mem hc
    exact ⟨s, hl, fun trail => hcs c hc s trail hl⟩
  rintro r bs rest ⟨hr, todo, htodo, ha⟩ -
  obtain ⟨t, left, rfl⟩ := List.exists_cons_of_ne_nil hne
  cases todo with
  | nil => exact absurd ha not_accepts_nil
  | cons s todo =>
    have hs : p ++ [s] <+: r.segments := ⟨todo, by simp [htodo]⟩
    obtain ⟨c, hc, hl⟩ := h.exists_child (Routes.mem_nexts.2 ⟨r, hr, hs⟩)
    exact ⟨c, hc, by simpa [hl] using hs⟩

theorem Grown.takeRest_answers (hd : (rs.map Route.segments).Nodup)
    (h : Grown rs (walked ++ [.rest]) n) (hne : left ≠ []) :
    Answers rs v walked left (walked ++ [.rest] <+: ·.segments) trail
      (takeRest v n.route left, trail) := by
  cases hroute : n.route with
  | none =>
    refine ⟨rfl, fun r bs rest hr ha => ?_⟩
    exact h.placed.of_route_eq_none hroute r ha.1 (Route.eq_of_rest_prefix hr)
  | some r =>
    obtain ⟨hr, hs⟩ := h.placed.of_route_eq_some hroute
    refine ⟨[], (List.append_nil _).symm, hs ▸ List.prefix_refl _, ⟨hr, [.rest], hs, ?_⟩, ?_⟩
    · exact (.rest .nil fun h => absurd h hne :
        Accepts rs v r walked ([] ++ [.rest]) ([] ++ left) [] _)
    · intro r' bs' rest' hr' ha
      exact .inl (eq_of_segments hd ha.1 hr ((Route.eq_of_rest_prefix hr').trans hs.symm))

/-- One level of a walk: the segment of the node takes a text, and the walk goes on below. -/
def enter (v : Sight) (below : List Text → Trail → Option (Hit ε) × Trail) (n : Node ε)
    (left : List Text) (trail : Trail) : Option (Hit ε) × Trail :=
  match n.label, left with
  | some .rest, left => (takeRest v n.route left, trail)
  | some s, t :: left =>
    let mark := trail.bindings.length
    match Fit.segment v.registry s t trail.bindings with
    | (.fits, bs) =>
      let trail := { trail with bindings := bs }
      orCutBack mark (if left.isEmpty then settle v n trail else below left trail)
    | (.differs, bs) => (none, { trail with bindings := bs }.cutBack mark)
    | (.unknown validator, bs) =>
      let trail := { trail with bindings := bs }.report (.unknownValidator validator s.raw)
      (none, trail.cutBack mark)
  | _, _ => (none, trail)

theorem descend_of_not_reaches (h : reaches n.depth n.height v.length = false) :
    descend v n left trail = (none, trail) := by
  obtain ⟨label, depth, height, route, children⟩ := n
  change reaches depth height v.length = false at h
  rw [descend.eq_def]
  simp [h]

theorem descend_of_reaches (h : reaches n.depth n.height v.length = true) :
    descend v n left trail = enter v (firstHit v n.children) n left trail := by
  obtain ⟨label, depth, height, route, children⟩ := n
  change reaches depth height v.length = true at h
  rw [descend.eq_def]
  simp only [h, Bool.not_true, Bool.false_eq_true, if_false]
  rfl

variable {below : List Text → Trail → Option (Hit ε) × Trail}

theorem enter_of_rest (hl : n.label = some .rest) :
    enter v below n left trail = (takeRest v n.route left, trail) := by
  simp [enter, hl]

theorem enter_of_fits {s : Segment} {t : Text} {bs : List Binding} (hl : n.label = some s)
    (hs : s ≠ .rest) (hfit : Fit.segment v.registry s t [] = (.fits, bs)) :
    enter v below n (t :: left) trail = orCutBack trail.bindings.length
      (if left.isEmpty then settle v n { trail with bindings := trail.bindings ++ bs }
        else below left { trail with bindings := trail.bindings ++ bs }) := by
  have happ := Fit.segment_append v.registry s t trail.bindings
  rw [hfit] at happ
  cases s with
  | rest => exact absurd rfl hs
  | _ => simp [enter, hl, happ]

theorem enter_of_misfit {s : Segment} {t : Text} (hl : n.label = some s) (hs : s ≠ .rest)
    (hfit : ∀ bs, Fit.segment v.registry s t [] ≠ (.fits, bs)) :
    ∃ events, ∀ trail : Trail, enter v below n (t :: left) trail =
      (none, ⟨trail.bindings, trail.events ++ events⟩) := by
  cases hseg : Fit.segment v.registry s t [] with
  | mk fit bs =>
    have happ (base : List Binding) : Fit.segment v.registry s t base = (fit, base ++ bs) := by
      rw [Fit.segment_append, hseg]
    cases fit with
    | fits => exact absurd hseg (hfit bs)
    | differs =>
      refine ⟨[], fun trail => ?_⟩
      cases s with
      | rest => exact absurd rfl hs
      | _ => simp [enter, hl, happ, Trail.cutBack]
    | unknown validator =>
      refine ⟨[.unknownValidator validator s.raw], fun trail => ?_⟩
      cases s with
      | rest => exact absurd rfl hs
      | _ => simp [enter, hl, happ, Trail.cutBack, Trail.report]

theorem Grown.descend_answers (hd : (rs.map Route.segments).Nodup) {s : Segment}
    (h : Grown rs (walked ++ [s]) n) (hne : left ≠ [])
    (hlen : walked.length + left.length = v.length) :
    Answers rs v walked left (walked ++ [s] <+: ·.segments) trail (descend v n left trail) := by
  generalize hp : walked ++ [s] = p at h
  induction h generalizing walked s left trail with
  | @mk p n placed children ih =>
    subst hp
    have hg : Grown rs (walked ++ [s]) n := .mk placed children
    have hl : n.label = some s := placed.label.trans (by simp)
    cases hreach : reaches n.depth n.height v.length with
    | false =>
      rw [descend_of_not_reaches hreach]
      rw [placed.depth, placed.height, List.length_append] at hreach
      exact ⟨rfl, fun r bs rest hr => not_acceptsAfter_of_not_reaches hreach hlen hr⟩
    | true =>
      rw [descend_of_reaches hreach]
      by_cases hs : s = .rest
      · subst hs
        rw [enter_of_rest hl]
        exact hg.takeRest_answers hd hne
      obtain ⟨t, left, rfl⟩ := List.exists_cons_of_ne_nil hne
      by_cases hfit : ∃ bs, Fit.segment v.registry s t [] = (.fits, bs)
      · obtain ⟨bs, hfit⟩ := hfit
        rw [enter_of_fits hl hs hfit]
        refine Answers.step hs (Fit.takes_iff.2 hfit) ?_
        cases left with
        | nil => exact hg.settle_answers hd
        | cons t' left =>
          refine placed.firstHit_answers (List.cons_ne_nil _ _) fun c hc s' trail hl' => ?_
          have hp : walked ++ [s] ++ [s'] = walked ++ [s] ++ c.label.toList := by rw [hl']; rfl
          rw [hp]
          refine ih c hc (List.cons_ne_nil _ _) ?_ hp
          simpa [Nat.add_assoc, Nat.add_comm 1] using hlen
      · obtain ⟨events, he⟩ := enter_of_misfit hl hs (not_exists.1 hfit)
        rw [he]
        refine ⟨rfl, fun r bs rest hr ha => hfit ?_⟩
        obtain ⟨bs₁, -, -, htakes, -⟩ := (acceptsAfter_cons hs hr).1 ha
        exact ⟨bs₁, Fit.takes_iff.1 htakes⟩

/-! ## From the root -/

def walk (v : Sight) (n : Node ε) : List Text → Option (Hit ε) × Trail
  | [] => settle v n .start
  | left => firstHit v n.children left .start

/-- A walk from the root is a search among all routes. -/
theorem Grown.walk_answers (hd : (rs.map Route.segments).Nodup) (h : Grown rs [] n)
    (hlen : left.length = v.length) :
    Answers rs v [] left (fun _ => True) .start (walk v n left) := by
  cases left with
  | nil => exact h.settle_answers hd
  | cons t left =>
    refine h.placed.firstHit_answers (List.cons_ne_nil _ _) fun c hc s trail hl => ?_
    exact Grown.descend_answers hd (h.child_of_label hc hl) (List.cons_ne_nil _ _)
      (by simpa using hlen)

end Node

end PathRouting
