import PathRouting.Proofs.Lookup.Search

/-! # What a later route changes

A route that is registered later leaves most answers as they are.  It can answer itself, and it can
come in the way of defaults; but it puts no other route in the place of one that takes the whole
path without them.
-/

namespace PathRouting

namespace Routes

variable {ε : Type} {rs : List (Route ε)} {e a b c : Route ε}

theorem Precedes.of_concat (h : Precedes (rs ++ [e]) a b) (ha : a ∈ rs) (hb : b ∈ rs) :
    Precedes rs a b := by
  obtain ⟨q, s, s', hs, hs', hlt⟩ := h
  rw [earliest_concat e ⟨a, ha, hs⟩, earliest_concat e ⟨b, hb, hs'⟩] at hlt
  exact ⟨q, s, s', hs, hs', hlt⟩

theorem Precedes.of_prefix (h : Precedes rs a b) (hp : b.segments <+: c.segments) :
    Precedes rs a c := by
  obtain ⟨q, s, s', hs, hs', hlt⟩ := h
  exact ⟨q, s, s', hs, hs'.trans (hp.map Segment.raw), hlt⟩

variable [Endpoint ε] {v : Sight} {r r' : Route ε} {s : List Text} {bs bs' : List Binding}
  {rest rest' : Option Text}

/-- A route that accepts without defaults goes on accepting, unless it does so with a rest marker
that takes nothing and the later route has all of its other segments; then that one accepts. -/
theorem Accepts.concat (e : Route ε) (h : Accepts rs v r [] r.segments s bs rest)
    (hlong : r.segments.getLast? = some .rest ∨ r.segments.length ≤ s.length) :
    Accepts (rs ++ [e]) v r [] r.segments s bs rest ∨
      e.segments <+: r.segments ∧ Accepts (rs ++ [e]) v e [] e.segments s bs none := by
  generalize hss : r.segments = ss at h hlong ⊢
  cases h with
  | direct takes => exact .inl (.direct takes)
  | @rest front taken left _ takes free =>
    -- only where the marker takes nothing does it give way to a route that ends before it
    by_cases he : left = [] ∧ e.segments = front
    · obtain ⟨rfl, rfl⟩ := he
      rw [List.append_nil]
      exact .inr ⟨List.prefix_append .., .direct takes⟩
    · refine .inl (.rest takes fun hleft r' hr' => ?_)
      rcases List.mem_append.1 hr' with hr' | hr'
      · exact free hleft r' hr'
      · rw [List.mem_singleton.1 hr']
        exact fun hfront => he ⟨hleft, hfront⟩
  | defaults takes ne_nil lapses exposes =>
    exfalso
    -- segments that take nothing make the pattern longer than the path, and none is a rest marker
    rcases hlong with hlast | hlen
    · rcases List.mem_append.1 (List.mem_of_getLast? hlast) with hrest | hrest
      · exact takes.rest_notMem hrest
      · exact lapses.rest_notMem hrest
    · have hpos := List.length_pos_of_ne_nil ne_nil
      rw [takes.length_eq, List.length_append] at hlen
      omega

theorem Accepts.exists_concat (e : Route ε) (h : Accepts rs v r [] r.segments s bs rest)
    (hr : r ∈ rs) (hlong : r.segments.getLast? = some .rest ∨ r.segments.length ≤ s.length) :
    ∃ r' ∈ rs ++ [e], ∃ bs' rest', Accepts (rs ++ [e]) v r' [] r'.segments s bs' rest' := by
  rcases h.concat e hlong with ha | ⟨-, ha⟩
  · exact ⟨r, List.mem_append_left _ hr, bs, rest, ha⟩
  · exact ⟨e, List.mem_append_right _ (List.mem_singleton_self e), bs, none, ha⟩

theorem Chosen.of_concat (h : Chosen (rs ++ [e]) v s r bs rest) :
    r = e ∨ r ∈ rs ∧ Accepts rs v r [] r.segments s bs rest := by
  rcases List.mem_append.1 h.mem with hr | hr
  · exact .inr ⟨hr, h.accepts.anti (List.subset_append_left rs [e])⟩
  · exact .inl (List.mem_singleton.1 hr)

/-- Where a route was chosen that accepts without defaults, a later one is chosen or it still is. -/
theorem Chosen.concat (h : Chosen rs v s r bs rest) (h' : Chosen (rs ++ [e]) v s r' bs' rest')
    (hlong : r.segments.getLast? = some .rest ∨ r.segments.length ≤ s.length) :
    r' = e ∨ r' = r ∧ bs' = bs ∧ rest' = rest := by
  rcases h'.of_concat with rfl | ⟨hr', ha'⟩
  · exact .inl rfl
  rcases h.first r' hr' bs' rest' ha' with rfl | hlt
  · obtain ⟨rfl, rfl⟩ := h.accepts.unique ha'
    exact .inr ⟨rfl, rfl, rfl⟩
  -- what answers in the place of `r` comes after `r'` now, although `r` came before it
  rcases h.accepts.concat e hlong with ha | ⟨hp, ha⟩
  · rcases h'.first r (List.mem_append_left _ h.mem) bs rest ha with rfl | hlt'
    · exact absurd hlt hlt.asymm
    · exact absurd (hlt'.of_concat hr' h.mem) hlt.asymm
  · rcases h'.first e (by simp) bs none ha with rfl | hlt'
    · exact .inl rfl
    · exact absurd ((hlt'.of_prefix hp).of_concat hr' h.mem) hlt.asymm

end Routes

namespace Match

variable {ε : Type}

/-- The pattern is longer than the path and has no rest marker at the end, so defaults stand in for
what the path leaves out. -/
def UsesDefaults (m : Match ε) (path : Text) : Prop :=
  m.route.segments.getLast? ≠ some .rest ∧
    ∃ s, Path.segments path = some s ∧ s.length < m.route.segments.length

theorem length_le_of_not_usesDefaults {m : Match ε} {path : Text} {s : List Text}
    (hs : Path.segments path = some s) (h : ¬m.UsesDefaults path) :
    m.route.segments.getLast? = some .rest ∨ m.route.segments.length ≤ s.length := by
  by_contra hnot
  obtain ⟨hlast, hlen⟩ := not_or.1 hnot
  exact h ⟨hlast, s, hs, Nat.lt_of_not_le hlen⟩

end Match

namespace Tree

open Routes

variable {ε : Type} [Endpoint ε] {t t' : Tree ε} {pattern : Text} {endpoint : ε}

/-- Unless the answer so far used defaults, one more route leaves it as it is or answers itself; and
whichever other route answers has accepted the path all along. -/
theorem lookup_after_add (h : t.Reachable) (hadd : t.add pattern endpoint = .ok t')
    (method : Method) (path : Text) :
    ((∀ m, t.lookup method path = .matched m → ¬m.UsesDefaults path) →
      t'.lookup method path = t.lookup method path ∨
        ∃ m, t'.lookup method path = .matched m ∧ m.route = ⟨pattern, endpoint⟩) ∧
    ∀ m, t'.lookup method path = .matched m → m.route = ⟨pattern, endpoint⟩ ∨
      m.route ∈ t.routes ∧ ∃ s bs rest, Path.segments path = some s ∧
        Accepts t.routes (t.sight method path s) m.route [] m.route.segments s bs rest ∧
        m = .ofHit t.selector ⟨m.route, rest⟩ bs := by
  have ht' := h.sound.add hadd
  obtain ⟨root, ss, rfl, -, -⟩ := add_eq_ok hadd
  constructor
  · intro hdirect
    cases hs : Path.segments path with
    | none =>
      left
      rw [lookup_of_malformed hs, lookup_of_malformed hs]
    | some s =>
      rcases ht'.lookup_cases method hs with ⟨r', bs', rest', hc', he'⟩ | ⟨he', hno'⟩ <;>
        rcases h.sound.lookup_cases method hs with ⟨r, bs, rest, hc, he⟩ | ⟨he, hno⟩
      · have hlong := Match.length_le_of_not_usesDefaults hs (hdirect _ he)
        rcases hc.concat hc' hlong with rfl | ⟨rfl, rfl, rfl⟩
        · exact .inr ⟨_, he', rfl⟩
        · exact .inl (he'.trans he.symm)
      · rcases hc'.of_concat with rfl | ⟨hr', ha⟩
        · exact .inr ⟨_, he', rfl⟩
        · exact absurd ha (hno r' hr' bs' rest')
      · have hlong := Match.length_le_of_not_usesDefaults hs (hdirect _ he)
        obtain ⟨r', hr', bs', rest', ha⟩ :=
          hc.accepts.exists_concat ⟨pattern, endpoint⟩ hc.mem hlong
        exact absurd ha (hno' r' hr' bs' rest')
      · exact .inl (he'.trans he.symm)
  · intro m hm
    obtain ⟨s, r, bs, rest, hs, hc, rfl⟩ := (lookup_eq_matched ht').1 hm
    rcases hc.of_concat with rfl | ⟨hr, ha⟩
    · exact .inl rfl
    · exact .inr ⟨hr, s, bs, rest, hs, ha, rfl⟩

/-- A page of its own takes the answer from a rest marker that takes nothing. -/
theorem bare_page_answers :
    let bare : Route Controller := ⟨"/page/<name>".toList, .of "bare".toList⟩
    pages.Reachable ∧ ∃ t', pages.add bare.pattern bare.endpoint = .ok t' ∧
      (∀ m, pages.lookup .get "/page/new".toList = .matched m →
        ¬m.UsesDefaults "/page/new".toList) ∧
      ∃ m, t'.lookup .get "/page/new".toList = .matched m ∧ m.route = bare := by
  intro bare
  have hdirect : ∀ m, pages.lookup .get "/page/new".toList = .matched m →
      ¬m.UsesDefaults "/page/new".toList := by
    have he : pages.lookup .get "/page/new".toList = .matched
        ⟨⟨"/page/<name>/*pathInfo".toList, .of "named".toList⟩,
          .ofList [("name".toList, "new".toList), ("pathInfo".toList, [])], none⟩ := by
      decide +kernel
    intro m hm
    rw [he] at hm
    cases hm
    rintro ⟨hlast, -⟩
    exact hlast (by decide +kernel)
  have hdiffer : (pages.attempt bare).lookup .get "/page/new".toList ≠
      pages.lookup .get "/page/new".toList := by
    decide +kernel
  obtain ⟨t', hadd⟩ : ∃ t', pages.add bare.pattern bare.endpoint = .ok t' :=
    exists_eq_ok (by decide +kernel)
  rw [attempt, hadd] at hdiffer
  rcases (lookup_after_add pages_reachable hadd .get "/page/new".toList).1 hdirect with
    hsame | hnew
  · exact absurd hsame hdiffer
  · exact ⟨pages_reachable, t', hadd, hdirect, hnew⟩

end Tree

end PathRouting
