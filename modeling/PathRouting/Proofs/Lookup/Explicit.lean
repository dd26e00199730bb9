import PathRouting.Proofs.Lookup.Confined
import PathRouting.Proofs.Lookup.Later
import PathRouting.Proofs.Lookup.Selector

/-! # Defaults written out

Where defaults stand in for the end of a path, the path with them written out is found as well, as
long as their validators take them.  An earlier route may answer it instead; the same route gives
the same match.
-/

namespace PathRouting

/-- The validator of a rule is there and takes all of a value, going by its number of bytes. -/
def Registry.TakesWhole (registry : Registry) (rule : Rule) (value : Text) : Prop :=
  ∃ validator, registry.get? rule.validator = some validator ∧
    Text.byteLength (validator rule value) = Text.byteLength value

namespace Routes

variable {ε : Type} {registry : Registry} {rs : List (Route ε)} {walked back : List Segment}
  {bs : List Binding}

theorem TakesAll.append {ss ss' : List Segment} {ts ts' : List Text} {bs' : List Binding}
    (h : TakesAll registry ss ts bs) (h' : TakesAll registry ss' ts' bs') :
    TakesAll registry (ss ++ ss') (ts ++ ts') (bs ++ bs') := by
  induction h with
  | nil => exact h'
  | cons head _ ih =>
    rw [List.append_assoc]
    exact .cons head ih

theorem takes_of_optional {s : Segment} {b : Binding} (h : s.optional? = some b)
    (hne : b.2 ≠ []) (hslots : ∀ slot ∈ s.slots, registry.TakesWhole slot.2 b.2) :
    Takes registry s b.2 [b] := by
  obtain ⟨raw, rule, rfl, -⟩ := Segment.optional?_eq_some h
  obtain ⟨validator, hv, hlen⟩ := hslots (b.1, rule) (List.mem_singleton_self _)
  have htaken : registry.taken rule b.2 = validator rule b.2 := by
    rw [Registry.taken, hv]
    rfl
  refine .slotted (Fit.fits_slot_iff.2 ⟨b.2, [], [], ?_, ?_, hne, rfl, ?_⟩)
  · rw [List.append_nil]
  · rw [htaken, hlen]
  · exact Fit.fits_nil_iff.2 ⟨rfl, rfl⟩

theorem Lapses.defaults (h : Lapses rs walked back bs) :
    (back.flatMap Segment.slots).map (·.2.default) = (bs.map (·.2)).map some := by
  induction h with
  | nil => rfl
  | cons _ _ optional _ ih =>
    obtain ⟨raw, rule, rfl, hdefault⟩ := Segment.optional?_eq_some optional
    rw [List.flatMap_cons, List.map_append, ih, List.map_cons, List.map_cons, ← hdefault]
    rfl

theorem Lapses.takesAll (h : Lapses rs walked back bs) (hne : ∀ b ∈ bs, b.2 ≠ [])
    (hslots : ∀ slot ∈ back.flatMap Segment.slots, ∀ value, slot.2.default = some value →
      registry.TakesWhole slot.2 value) :
    TakesAll registry back (bs.map (·.2)) bs := by
  induction h with
  | nil => exact .nil
  | @cons _ back s b bs _ _ optional _ ih =>
    rw [List.flatMap_cons] at hslots
    obtain ⟨hs, hslots⟩ := List.forall_mem_append.1 hslots
    obtain ⟨hb, hne⟩ := List.forall_mem_cons.1 hne
    have head : Takes registry s b.2 [b] := by
      apply takes_of_optional optional hb
      intro slot hslot
      apply hs slot hslot
      obtain ⟨raw, rule, rfl, hdefault⟩ := Segment.optional?_eq_some optional
      obtain rfl := List.mem_singleton.1 hslot
      exact hdefault
    exact .cons head (ih hne hslots)

variable [Endpoint ε] {v : Sight} {r : Route ε} {todo : List Segment} {left : List Text}
  {rest : Option Text}

theorem Accepts.of_length_lt (h : Accepts rs v r walked todo left bs rest)
    (hlast : todo.getLast? ≠ some .rest) (hlen : left.length < todo.length) :
    rest = none ∧ ∃ front bs₁ bs₂, todo = front ++ todo.drop left.length ∧ bs = bs₁ ++ bs₂ ∧
      TakesAll v.registry front left bs₁ ∧
      Lapses rs (walked ++ front) (todo.drop left.length) bs₂ := by
  cases h with
  | direct takes =>
    rw [takes.length_eq] at hlen
    exact absurd hlen (Nat.lt_irrefl _)
  | rest takes free => exact absurd (by simp) hlast
  | @defaults front back _ bs bs' takes ne_nil lapses exposes =>
    rw [takes.length_eq, List.drop_left]
    exact ⟨rfl, front, bs, bs', rfl, rfl, takes, lapses⟩

end Routes

namespace Match

variable {ε : Type}

/-- The slots of the matched pattern that lie past the end of the path. -/
def leftOut (m : Match ε) (path : Text) : List (Text × Rule) :=
  (Path.segments path).elim [] fun s =>
    (m.route.segments.drop s.length).flatMap Segment.slots

end Match

theorem Route.segments_of_pattern {ε : Type} {r r' : Route ε} (h : r.pattern = r'.pattern) :
    r.segments = r'.segments := by
  rw [segments, segments, h]

namespace Tree

open Routes

variable {ε : Type} [Endpoint ε] {t : Tree ε} {method : Method} {path : Text} {m : Match ε}

/-- A path answered by defaults is answered as well with these written after it, if each names
something and is taken as a whole; and if by the same pattern, then by the same match. -/
theorem defaults_written_out (h : t.Reachable) (hm : t.lookup method path = .matched m)
    (hdefaults : m.UsesDefaults path)
    (hslots : ∀ slot ∈ m.leftOut path, ∀ value, slot.2.default = some value →
      value ≠ [] ∧ value ≠ ".".toList ∧ value ≠ "..".toList ∧
        t.registry.TakesWhole slot.2 value) :
    ∃ values : List Text, (m.leftOut path).map (·.2.default) = values.map some ∧
      ∃ m', t.lookup method (path ++ values.flatMap ('/' :: ·)) = .matched m' ∧
        (m'.route.pattern = m.route.pattern → m' = m) := by
  obtain ⟨s, r, bs, rest, hs, hc, rfl⟩ := (lookup_eq_matched h.sound).1 hm
  obtain ⟨hlast, s', hs', hlen⟩ := hdefaults
  obtain rfl : s = s' := Option.some.inj (hs.symm.trans hs')
  obtain ⟨rfl, front, bs₁, bs₂, hfront, rfl, takes, lapses⟩ := hc.accepts.of_length_lt hlast hlen
  have hleft : (Match.ofHit t.selector ⟨r, none⟩ (bs₁ ++ bs₂)).leftOut path =
      (r.segments.drop s.length).flatMap Segment.slots := by
    rw [Match.leftOut, hs]
    rfl
  rw [hleft] at hslots ⊢
  -- each default is the value of a slot past the end of the path
  have hvalue : ∀ b ∈ bs₂, b.2 ≠ [] ∧ b.2 ≠ ".".toList ∧ b.2 ≠ "..".toList := by
    intro b hb
    obtain ⟨seg, hseg, ho⟩ := lapses.exists_optional hb
    obtain ⟨raw, rule, rfl, hdefault⟩ := Segment.optional?_eq_some ho
    have hslot : (b.1, rule) ∈ (r.segments.drop s.length).flatMap Segment.slots :=
      List.mem_flatMap.2 ⟨_, hseg, List.mem_singleton_self _⟩
    obtain ⟨hne, hdot, hparent, -⟩ := hslots _ hslot _ hdefault
    exact ⟨hne, hdot, hparent⟩
  have hproper : ∀ p ∈ bs₂.map (·.2), Path.Proper p := by
    intro p hp
    obtain ⟨b, hb, rfl⟩ := List.mem_map.1 hp
    obtain ⟨hne, hdot, hparent⟩ := hvalue b hb
    refine ⟨hne, hdot, hparent, ?_⟩
    exact hc.accepts.no_slash (h.sound.read r hc.mem) (fun _ => Path.proper_of_mem hs)
      (List.mem_append_right _ hb)
  have hlonger := Path.segments_append_flatMap hs hproper
  have hback := lapses.takesAll (fun b hb => (hvalue b hb).1) fun slot hslot value hdefault =>
    (hslots slot hslot value hdefault).2.2.2
  have htakes : TakesAll t.registry r.segments (s ++ bs₂.map (·.2)) (bs₁ ++ bs₂) := by
    rw [hfront]
    exact takes.append hback
  refine ⟨bs₂.map (·.2), lapses.defaults, ?_⟩
  rcases h.sound.lookup_cases method hlonger with ⟨r', bs', rest', hc', he⟩ | ⟨-, hno⟩
  · refine ⟨_, he, fun hpattern => ?_⟩
    obtain rfl : r' = r := eq_of_segments h.sound.distinct hc'.mem hc.mem
      (Route.segments_of_pattern hpattern)
    obtain ⟨rfl, rfl⟩ := hc'.accepts.unique (.direct htakes)
    rfl
  · exact absurd (.direct htakes) (hno r hc.mem _ _)

/-- The front page of a blog is found with its page and its action written out. -/
theorem frontPage_written_out :
    blogs.Reachable ∧ blogs.lookup .get "/blog".toList = .matched frontPage ∧
      frontPage.UsesDefaults "/blog".toList ∧
      ∃ m, blogs.lookup .get "/blog/1/list".toList = .matched m ∧
        (m.route.pattern = frontPage.route.pattern → m = frontPage) := by
  have hm : blogs.lookup .get "/blog".toList = .matched frontPage := by decide +kernel
  have hs : Path.segments "/blog".toList = some ["blog".toList] := by decide +kernel
  have hdefaults : frontPage.UsesDefaults "/blog".toList :=
    ⟨by decide +kernel, _, hs, by decide +kernel⟩
  have hleft : frontPage.leftOut "/blog".toList =
      [("page".toList, { Rule.of "int".toList with default := some "1".toList }),
        ("action".toList, { Rule.of "action".toList with default := some "list".toList })] := by
    decide +kernel
  have hslots : ∀ slot ∈ frontPage.leftOut "/blog".toList, ∀ value,
      slot.2.default = some value → value ≠ [] ∧ value ≠ ".".toList ∧ value ≠ "..".toList ∧
        blogs.registry.TakesWhole slot.2 value := by
    rw [hleft]
    intro slot hslot value hvalue
    rcases List.mem_pair.1 hslot with rfl | rfl
    · cases hvalue
      exact ⟨by decide, by decide, by decide, Validator.digits, rfl, by decide +kernel⟩
    · cases hvalue
      exact ⟨by decide, by decide, by decide, Validator.action, rfl, by decide +kernel⟩
  obtain ⟨values, hvalues, m, hfound, hsame⟩ :=
    defaults_written_out blogs_reachable hm hdefaults hslots
  obtain rfl : values = ["1".toList, "list".toList] := by
    rw [hleft] at hvalues
    exact (List.map_injective_iff.2 (fun _ _ => Option.some.inj) hvalues).symm
  exact ⟨blogs_reachable, hm, hdefaults, m, hfound, hsame⟩

end Tree

end PathRouting
