import PathRouting.Proofs.Tree.Routes

/-! # Clashing patterns

Two patterns clash if they part where one of them goes on with the rest marker.  What keeps a
pattern out of a tree is read off the list of routes, one segment at a time; as long as no two of
the routes clash, that finds a route with the same segments, or one that clashes, if there is any.
-/

namespace PathRouting

variable {ε : Type}

/-- Two lists of segments agree on `q`; there they part with `s` and `s'`, one of them the rest
marker. -/
structure Clash (q : List Segment) (s s' : Segment) (ss ss' : List Segment) : Prop where
  left : q ++ [s] <+: ss
  right : q ++ [s'] <+: ss'
  ne : s ≠ s'
  rest : s = .rest ∨ s' = .rest

theorem Clash.symm {q ss ss' : List Segment} {s s' : Segment} (h : Clash q s s' ss ss') :
    Clash q s' s ss' ss :=
  ⟨h.right, h.left, h.ne.symm, h.rest.symm⟩

theorem Clash.irrefl {q ss : List Segment} {s s' : Segment} (h : Clash q s s' ss ss) : False := by
  obtain ⟨hl, hr, hne, -⟩ := h
  apply hne
  have he : q ++ [s] = q ++ [s'] :=
    (List.prefix_of_prefix_length_le hl hr (by simp)).eq_of_length (by simp)
  exact List.singleton_inj.1 (List.append_cancel_left he)

/-- Somewhere two lists of segments clash. -/
def Clashes (ss ss' : List Segment) : Prop := ∃ q s s', Clash q s s' ss ss'

theorem Clashes.symm {ss ss' : List Segment} (h : Clashes ss ss') : Clashes ss' ss := by
  obtain ⟨q, s, s', hc⟩ := h
  exact ⟨q, s', s, hc.symm⟩

theorem Clashes.irrefl {ss : List Segment} : ¬Clashes ss ss := by
  rintro ⟨q, s, s', hc⟩
  exact hc.irrefl

theorem concat_prefix_of_length_lt {p q ss : List Segment} {s : Segment} (h : q ++ [s] <+: ss)
    (hp : p <+: ss) (hlt : q.length < p.length) : q ++ [s] <+: p := by
  apply List.prefix_of_prefix_length_le h hp
  rw [List.length_append, List.length_singleton]
  omega

/-- A clash that lies before the end of `p` is one with every list that begins with `p`. -/
theorem Clash.congr {p q ss ss' ss'' : List Segment} {s s' : Segment} (h : Clash q s s' ss ss')
    (hp : p <+: ss') (hp' : p <+: ss'') (hlt : q.length < p.length) : Clash q s s' ss ss'' :=
  ⟨h.left, (concat_prefix_of_length_lt h.right hp hlt).trans hp', h.ne, h.rest⟩

namespace Routes

variable {rs : List (Route ε)} {q ss : List Segment} {s : Segment}

/-- No two of the routes clash. -/
def Clear (rs : List (Route ε)) : Prop := ∀ r ∈ rs, ∀ r' ∈ rs, ¬Clashes r.segments r'.segments

/-- The segment that a new segment `s` after `q` would clash with. -/
def rival? (rs : List (Route ε)) (q : List Segment) (s : Segment) : Option Segment :=
  if s = .rest then (nexts rs q).head? else if .rest ∈ nexts rs q then some .rest else none

/-- What keeps a pattern out that has `ss` left after `q`. -/
def fault? (rs : List (Route ε)) (q : List Segment) : List Segment → Option Fault
  | [] => if (ending rs q).isSome then some .taken else none
  | s :: ss =>
    if s ∈ nexts rs q then fault? rs (q ++ [s]) ss
    else (rival? rs q s).map fun rival => .restConflict rival.raw

theorem head?_nexts (rs : List (Route ε)) (q : List Segment) :
    (nexts rs q).head? = rs.findSome? (Route.next? q) := by
  induction rs using List.reverseRecOn with
  | nil => rfl
  | append_singleton rs e ih =>
    rw [nexts_concat, List.findSome?_append, ← ih, join]
    cases hs : e.next? q with
    | none => simp [hs]
    | some s =>
      by_cases hmem : s ∈ nexts rs q
      · obtain ⟨first, more, hn⟩ := List.exists_cons_of_ne_nil (List.ne_nil_of_mem hmem)
        simp [hn, hn ▸ hmem]
      · simp [hmem, hs, List.head?_append]

/-- The rival of a rest marker is what the first route to go on has next; any other segment can
only have a rest marker for a rival. -/
theorem rival_of_eq_some {rival : Segment} (h : rival? rs q s = some rival) :
    if s = .rest then rs.findSome? (Route.next? q) = some rival else rival = .rest := by
  unfold rival? at h
  split at h
  · rwa [if_pos ‹_›, ← head?_nexts]
  · rw [if_neg ‹_›]
    split at h <;> cases h
    rfl

/-- What speaks against a pattern of segments `ss`, if anything does. -/
inductive Judged (rs : List (Route ε)) (ss : List Segment) : Option Fault → Prop
  | taken (same : ∃ r ∈ rs, r.segments = ss) (apart : ¬∃ r ∈ rs, Clashes r.segments ss) :
      Judged rs ss (some .taken)
  | conflict {rival : Segment} (fresh : ¬∃ r ∈ rs, r.segments = ss)
      (clash : ∃ r ∈ rs, Clashes r.segments ss)
      (named : ∀ r ∈ rs, ∀ q s s', Clash q s s' r.segments ss → rival? rs q s' = some rival) :
      Judged rs ss (some (.restConflict rival.raw))
  | clear (fresh : ¬∃ r ∈ rs, r.segments = ss) (apart : ¬∃ r ∈ rs, Clashes r.segments ss) :
      Judged rs ss none

theorem exists_clashes_of_rival? {rival : Segment} (hnew : s ∉ nexts rs q)
    (hrival : rival? rs q s = some rival) : ∃ r ∈ rs, Clashes r.segments (q ++ s :: ss) := by
  have hq : q ++ [s] <+: q ++ s :: ss := ⟨ss, by simp⟩
  have hmem : rival ∈ nexts rs q ∧ (rival = .rest ∨ s = .rest) := by
    unfold rival? at hrival
    split at hrival
    · exact ⟨List.mem_of_head? hrival, .inr ‹_›⟩
    · split at hrival
      · rename_i hrest
        cases hrival
        exact ⟨hrest, .inl rfl⟩
      · cases hrival
  obtain ⟨r, hr, hl⟩ := mem_nexts.1 hmem.1
  refine ⟨r, hr, q, rival, s, hl, hq, ?_, hmem.2⟩
  rintro rfl
  exact hnew hmem.1

/-- A pattern clashes with nothing before it leaves the way of some route. -/
theorem Clear.length_le {r : Route ε} {p : List Segment} {u u' : Segment} (hclear : Clear rs)
    (hq : q = [] ∨ ∃ r ∈ rs, q <+: r.segments) (hr : r ∈ rs) (hss : q <+: ss)
    (hc : Clash p u u' r.segments ss) : q.length ≤ p.length := by
  by_contra hlt
  rcases hq with rfl | ⟨r', hr', hq⟩
  · simp at hlt
  · exact hclear r hr r' hr' ⟨p, u, u', hc.congr hss hq (by omega)⟩

theorem Clear.not_clashes (hclear : Clear rs) (hq : q = [] ∨ ∃ r ∈ rs, q <+: r.segments) :
    ¬∃ r ∈ rs, Clashes r.segments q := by
  rintro ⟨r, hr, p, u, u', hc⟩
  have hle := hclear.length_le hq hr (List.prefix_refl q) hc
  have hlt := hc.right.length_le
  rw [List.length_append, List.length_singleton] at hlt
  omega

theorem Clear.eq_of_new {r : Route ε} {p : List Segment} {u u' : Segment} (hclear : Clear rs)
    (hq : q = [] ∨ ∃ r ∈ rs, q <+: r.segments) (hnew : s ∉ nexts rs q) (hr : r ∈ rs)
    (hc : Clash p u u' r.segments (q ++ s :: ss)) : p = q ∧ u' = s := by
  have hle := hclear.length_le hq hr (List.prefix_append q (s :: ss)) hc
  have hqs : q ++ [s] <+: q ++ s :: ss := ⟨ss, by simp⟩
  have hp : p <+: q ++ s :: ss := (List.prefix_append p [u']).trans hc.right
  rcases Nat.lt_or_eq_of_le hle with hlt | hlen
  · -- the other route goes through `s` as well
    have hps := (concat_prefix_of_length_lt hqs hp hlt).trans (List.prefix_append p [u])
    exact absurd (mem_nexts.2 ⟨r, hr, hps.trans hc.left⟩) hnew
  · obtain rfl : q = p :=
      (List.prefix_of_prefix_length_le (List.prefix_append q (s :: ss)) hp hle).eq_of_length hlen
    have hu := (List.prefix_append_right_inj q).1 hc.right
    exact ⟨rfl, by simpa using hu⟩

theorem fresh_of_new (hnew : s ∉ nexts rs q) : ¬∃ r ∈ rs, r.segments = q ++ s :: ss := by
  rintro ⟨r, hr, he⟩
  exact hnew (mem_nexts.2 ⟨r, hr, ss, by simp [he]⟩)

/-- As long as no two routes clash, a pattern is judged where it first leaves their way. -/
theorem Clear.judged (hclear : Clear rs) (hq : q = [] ∨ ∃ r ∈ rs, q <+: r.segments) :
    Judged rs (q ++ ss) (fault? rs q ss) := by
  -- as long as the pattern goes the way of some route, nothing is settled
  induction ss generalizing q with
  | nil =>
    rw [fault?, List.append_nil]
    cases he : ending rs q with
    | none => exact .clear (by simpa using ending_eq_none.1 he) (hclear.not_clashes hq)
    | some r => exact .taken ⟨r, ending_eq_some he⟩ (hclear.not_clashes hq)
  | cons s ss ih =>
    rw [fault?]
    by_cases hs : s ∈ nexts rs q
    · rw [if_pos hs]
      have hjudged := ih (.inr (mem_nexts.1 hs))
      simpa using hjudged
    · rw [if_neg hs]
      cases hrival : rival? rs q s with
      | none =>
        -- any clash would be at `s`, where it would make a rival
        refine .clear (fresh_of_new hs) ?_
        rintro ⟨r, hr, p, u, u', hc⟩
        obtain ⟨rfl, rfl⟩ := hclear.eq_of_new hq hs hr hc
        have hu : u ∈ nexts rs p := mem_nexts.2 ⟨r, hr, hc.left⟩
        rcases hc.rest with rfl | rfl
        · simp [rival?, hu, hc.ne.symm] at hrival
        · rw [rival?, if_pos rfl, List.head?_eq_none_iff] at hrival
          simp [hrival] at hu
      | some rival =>
        refine .conflict (fresh_of_new hs) (exists_clashes_of_rival? hs hrival) ?_
        intro r hr p u u' hc
        obtain ⟨rfl, rfl⟩ := hclear.eq_of_new hq hs hr hc
        exact hrival

end Routes

end PathRouting
