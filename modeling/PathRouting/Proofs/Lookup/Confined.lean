import PathRouting.Proofs.Lookup.Params
import PathRouting.Proofs.Path
import PathRouting.Proofs.Pattern.Grammar

/-! # No way up

A path with a `..` piece is turned away whatever is registered, and no match binds a text that leads
out of its place: a rest marker gets segments that name something, a slot gets no slash, and a slot
that makes up its segment gets neither `.` nor `..`.
-/

namespace PathRouting

namespace Routes

variable {ε : Type} [Endpoint ε] {rs : List (Route ε)} {v : Sight} {r : Route ε}
  {walked todo : List Segment} {left : List Text} {bs : List Binding} {rest : Option Text}

/-- A value is taken from a text of the path, or it is the default of a segment. -/
theorem Accepts.source (h : Accepts rs v r walked todo left bs rest) {b : Binding} (hb : b ∈ bs) :
    (∃ seg ∈ todo, ∃ t ∈ left, ∃ bs', b ∈ bs' ∧ Takes v.registry seg t bs') ∨
      ∃ seg ∈ todo, seg.optional? = some b := by
  cases h with
  | direct takes => exact .inl (takes.exists_takes hb)
  | rest takes free =>
    obtain ⟨seg, hseg, t, ht, htakes⟩ := takes.exists_takes hb
    exact .inl ⟨seg, List.mem_append_left _ hseg, t, List.mem_append_left _ ht, htakes⟩
  | defaults takes ne_nil lapses exposes =>
    rcases List.mem_append.1 hb with hb | hb
    · obtain ⟨seg, hseg, htakes⟩ := takes.exists_takes hb
      exact .inl ⟨seg, List.mem_append_left _ hseg, htakes⟩
    · obtain ⟨seg, hseg, ho⟩ := lapses.exists_optional hb
      exact .inr ⟨seg, List.mem_append_right _ hseg, ho⟩

theorem Accepts.takes_of_mem (h : Accepts rs v r walked todo left bs rest) {seg : Segment}
    (hseg : seg ∈ todo.take left.length) (hrest : seg ≠ .rest) :
    ∃ t ∈ left, ∃ bs', bs' ⊆ bs ∧ Takes v.registry seg t bs' := by
  cases h with
  | direct takes => exact takes.takes_of_mem (List.mem_of_mem_take hseg)
  | rest takes free =>
    rcases List.mem_append.1 (List.mem_of_mem_take hseg) with hseg | hseg
    · obtain ⟨t, ht, htakes⟩ := takes.takes_of_mem hseg
      exact ⟨t, List.mem_append_left _ ht, htakes⟩
    · exact absurd (List.mem_singleton.1 hseg) hrest
  | defaults takes ne_nil lapses exposes =>
    rw [takes.length_eq, List.take_left] at hseg
    obtain ⟨t, ht, bs', hbs, htakes⟩ := takes.takes_of_mem hseg
    exact ⟨t, ht, bs', List.subset_append_of_subset_left _ hbs, htakes⟩

theorem Accepts.whole (h : Accepts rs v r walked todo left bs rest) {seg : Segment}
    (hseg : seg ∈ todo.take left.length) {name : Text} {rule : Rule}
    (hpieces : seg.pieces = [.slot name rule]) : ∃ t ∈ left, (name, t) ∈ bs := by
  have hrest : seg ≠ .rest := by
    rintro rfl
    cases hpieces
  obtain ⟨t, ht, bs', hbs, htakes⟩ := h.takes_of_mem hseg hrest
  obtain rfl := htakes.whole hpieces
  exact ⟨t, ht, hbs (List.mem_singleton_self _)⟩

/-- With a rest marker at the end, the texts it takes are the last ones of the path. -/
theorem Accepts.rest_eq (h : Accepts rs v r walked todo left bs rest) :
    (todo.getLast? = some .rest → ∃ spare, spare ⊆ left ∧ rest = some (v.restText spare)) ∧
      (todo.getLast? ≠ some .rest → rest = none) :=
  ⟨fun he => ⟨_, List.drop_subset _ _, h.rest_of_getLast? he⟩, h.rest_of_getLast?_ne⟩

theorem Accepts.no_slash (h : Accepts rs v r walked r.segments left bs rest)
    (hread : Pattern.read r.pattern = .ok r.segments) (hleft : ∀ t ∈ left, Path.Proper t)
    {b : Binding} (hb : b ∈ bs) : '/' ∉ b.2 := by
  intro hslash
  rcases h.source hb with ⟨seg, -, t, ht, bs', hb, htakes⟩ | ⟨seg, hseg, ho⟩
  · exact (hleft t ht).no_slash (htakes.subset b hb hslash)
  · obtain ⟨hraws, -, hregular⟩ := Pattern.read_eq_ok hread
    have hraw := Path.proper_of_mem hraws (List.mem_map_of_mem hseg)
    obtain ⟨raw, rule, rfl, hdefault⟩ := Segment.optional?_eq_some ho
    have hslot : (b.1, rule) ∈ (Segment.slotted raw [.slot b.1 rule]).slots :=
      List.mem_singleton_self _
    have hsubset := Pattern.default_subset_raw (hregular.ofRaw _ hseg) hslot hdefault
    exact hraw.no_slash (hsubset hslash)

end Routes

namespace Tree

open Routes

variable {ε : Type}

theorem restText_eq_or (t : Tree ε) (method : Method) (path : Text) (s left : List Text) :
    (t.sight method path s).restText left = Text.join '/' left ∨
      left ≠ [] ∧ (t.sight method path s).restText left = Text.join '/' left ++ ['/'] := by
  rw [restText_sight]
  split
  · rename_i hslash
    refine .inr ⟨?_, rfl⟩
    rintro rfl
    exact hslash.2 rfl
  · exact .inl (List.append_nil _)

variable [Endpoint ε] {t : Tree ε}

/-- A lookup turns away just the paths with a `..` piece.  In a match, the rest marker has segments
that name something, with a slash after them at most; no other value has a slash; and a slot that
makes up a segment of the path has neither `.` nor `..`. -/
theorem traversal_kept_out (h : t.Reachable) (method : Method) (path : Text) :
    ((∃ p, t.lookup method path = .malformed p) ↔ "..".toList ∈ Text.split '/' path) ∧
      ∀ m, t.lookup method path = .matched m → ∃ ss s, Pattern.parse m.route.pattern = .ok ss ∧
        Path.segments path = some s ∧
        (ss.getLast? = some .rest → ∃ ps, (∀ p ∈ ps, Path.Proper p) ∧
          (m.params.get? Segment.restName = some (Text.join '/' ps) ∨
            ps ≠ [] ∧ m.params.get? Segment.restName = some (Text.join '/' ps ++ ['/']))) ∧
        (∀ k value, m.params.get? k = some value →
          (k = Segment.restName ∧ ss.getLast? = some .rest) ∨ '/' ∉ value) ∧
        ∀ seg ∈ ss.take s.length, ∀ name rule, seg.pieces = [.slot name rule] →
          ∃ value, m.params.get? name = some value ∧ value ≠ ".".toList ∧ value ≠ "..".toList := by
  refine ⟨?_, fun m hm => ?_⟩
  · simp only [lookup_eq_malformed h.sound, exists_eq_left, Path.segments_eq_none]
    rfl
  obtain ⟨s, bs, rest, hs, ha, hparse, hparams, -, hnd⟩ := h.sound.of_matched hm
  have hget : ∀ b ∈ bound bs rest, m.params.get? b.1 = some b.2 := by
    intro b hb
    rw [hparams]
    exact Dictionary.get?_ofList_of_mem hnd hb
  have hproper : ∀ text ∈ s, Path.Proper text := fun text => Path.proper_of_mem hs
  refine ⟨m.route.segments, s, hparse, hs, fun hlast => ?_, fun k value hk => ?_,
    fun seg hseg name rule hpieces => ?_⟩
  · obtain ⟨spare, hspare, rfl⟩ := ha.rest_eq.1 hlast
    rw [hget (Segment.restName, _) (List.mem_append_right _ (List.mem_singleton_self _))]
    refine ⟨spare, fun p hp => hproper p (hspare hp), ?_⟩
    exact (restText_eq_or t method path s spare).imp (congrArg some) (And.imp_right (congrArg some))
  · rw [hparams] at hk
    rcases List.mem_append.1 (Dictionary.mem_of_get?_ofList hk) with hb | hb
    · exact .inr (ha.no_slash (Pattern.parse_eq_ok.1 hparse) hproper hb)
    · by_cases hlast : m.route.segments.getLast? = some .rest
      · obtain ⟨text, -, he⟩ := List.mem_map.1 hb
        exact .inl ⟨(Prod.mk.inj he).1.symm, hlast⟩
      · rw [ha.rest_eq.2 hlast] at hb
        cases hb
  · obtain ⟨text, htext, hb⟩ := ha.whole hseg hpieces
    exact ⟨text, hget _ (List.mem_append_left _ hb), (hproper text htext).ne_dot,
      (hproper text htext).ne_parent⟩

/-- Idle pieces below a page are dropped and the slash at the end is kept; stepping up is turned
away. -/
theorem belowPage_confined :
    pages.Reachable ∧ (∃ p, pages.lookup .get "/page/é/../secret".toList = .malformed p) ∧
      ∃ ps, (∀ p ∈ ps, Path.Proper p) ∧
        (belowPageMatch.params.get? Segment.restName = some (Text.join '/' ps) ∨
          ps ≠ [] ∧ belowPageMatch.params.get? Segment.restName =
            some (Text.join '/' ps ++ ['/'])) := by
  have hup := (traversal_kept_out pages_reachable .get "/page/é/../secret".toList).1.2
    (by decide +kernel)
  obtain ⟨ss, s, hss, -, hrest, -⟩ :=
    (traversal_kept_out pages_reachable .get belowPage).2 _ lookup_belowPage
  have hlast : ss.getLast? = some .rest := by
    have he : (Pattern.parse belowPageMatch.route.pattern).toOption.any
        (·.getLast? = some .rest) = true := by
      decide +kernel
    simpa [hss, Except.toOption] using he
  exact ⟨pages_reachable, hup, hrest hlast⟩

end Tree

end PathRouting
