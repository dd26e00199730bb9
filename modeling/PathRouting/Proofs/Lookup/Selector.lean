import PathRouting.Proofs.Lookup.Params

/-! # Selectors by default

A slot that the path leaves out is bound to its own default, and the selector only to a value that
the endpoint of the match supports.
-/

namespace PathRouting

namespace Routes

variable {ε : Type} [Endpoint ε] {rs : List (Route ε)} {v : Sight} {r : Route ε}
  {walked todo : List Segment} {left : List Text} {bs : List Binding} {rest : Option Text}

theorem Accepts.defaulted (h : Accepts rs v r walked todo left bs rest) {seg : Segment}
    (hseg : seg ∈ todo.drop left.length) {slot : Text × Rule} (hslot : slot ∈ seg.slots) :
    ∃ value, slot.2.default = some value ∧ (slot.1, value) ∈ bs ∧
      (slot.1 = v.selector → Endpoint.supports r.endpoint v.method value = true) := by
  cases h with
  | direct takes =>
    rw [takes.length_eq, List.drop_length] at hseg
    cases hseg
  | @rest front taken left _ takes free =>
    -- all but the rest marker take texts, and a rest marker has no slots
    have hle : front.length ≤ (taken ++ left).length := by
      rw [List.length_append, takes.length_eq]
      exact Nat.le_add_right _ _
    rw [List.drop_append, List.drop_eq_nil_of_le hle, List.nil_append] at hseg
    obtain rfl := List.mem_singleton.1 (List.mem_of_mem_drop hseg)
    cases hslot
  | @defaults front back _ bs bs' takes ne_nil lapses exposes =>
    rw [takes.length_eq, List.drop_left] at hseg
    obtain ⟨b, hb, ho⟩ := lapses.optional hseg
    obtain ⟨raw, rule, rfl, hdefault⟩ := Segment.optional?_eq_some ho
    obtain rfl : slot = (b.1, rule) := List.mem_singleton.1 hslot
    exact ⟨b.2, hdefault, List.mem_append_right _ hb, exposes b hb⟩

end Routes

namespace Tree

open Routes

variable {ε : Type} [Endpoint ε] {t : Tree ε} {method : Method} {path : Text} {m : Match ε}

/-- Where the path leaves the selector to its default, the match is dispatchable: the endpoint that
answers supports the method with that default. -/
theorem defaulted_selector_dispatchable (h : t.Reachable)
    (hm : t.lookup method path = .matched m) {ss : List Segment} {s : List Text}
    (hss : Pattern.parse m.route.pattern = .ok ss) (hs : Path.segments path = some s)
    {seg : Segment} (hseg : seg ∈ ss.drop s.length) {slot : Text × Rule} (hslot : slot ∈ seg.slots)
    (hname : slot.1 = t.selector) :
    ∃ value, slot.2.default = some value ∧ m.selector = some value ∧
      Endpoint.supports m.route.endpoint method value = true ∧ m.isDispatchable method = true := by
  obtain ⟨s', bs, rest, hs', ha, hparse, hparams, hselector, hnd⟩ := h.sound.of_matched hm
  obtain rfl : s = s' := Option.some.inj (hs.symm.trans hs')
  obtain rfl : ss = m.route.segments := Except.ok.inj (hss.symm.trans hparse)
  obtain ⟨value, hdefault, hb, hexposed⟩ := ha.defaulted hseg hslot
  have hsupports : Endpoint.supports m.route.endpoint method value = true := hexposed hname
  have hbound : m.selector = some value := by
    rw [hselector, hparams, ← hname]
    exact Dictionary.get?_ofList_of_mem hnd (List.mem_append_left _ hb)
  refine ⟨value, hdefault, hbound, hsupports, ?_⟩
  rw [Match.isDispatchable, hbound]
  exact hsupports

def blog : Controller := (Controller.of "blog".toList).withAction "list".toList [.get]

/-- A blog whose pages and actions can both be left out. -/
def blogs : Tree Controller :=
  (empty .builtIn usualSelector).attemptAll [⟨"/blog/<page=1:int>/<action=list>".toList, blog⟩]

theorem blogs_reachable : blogs.Reachable := (Reachable.empty ..).attemptAll _

def frontPage : Match Controller :=
  ⟨⟨"/blog/<page=1:int>/<action=list>".toList, blog⟩,
    .ofList [("page".toList, "1".toList), ("action".toList, "list".toList)], some "list".toList⟩

def optionalAction : Segment :=
  .slotted "<action=list>".toList
    [.slot "action".toList { Rule.of "action".toList with default := some "list".toList }]

/-- Both defaults stand in on the front page, and `GET` is let in. -/
theorem frontPage_dispatchable :
    blogs.Reachable ∧ blogs.lookup .get "/blog".toList = .matched frontPage ∧
      ∃ ss s, Pattern.parse frontPage.route.pattern = .ok ss ∧
        Path.segments "/blog".toList = some s ∧ optionalAction ∈ ss.drop s.length ∧
        frontPage.selector = some "list".toList ∧ frontPage.isDispatchable .get = true := by
  have hm : blogs.lookup .get "/blog".toList = .matched frontPage := by decide +kernel
  obtain ⟨ss, hss⟩ : ∃ ss, Pattern.parse frontPage.route.pattern = .ok ss :=
    exists_eq_ok (by decide +kernel)
  have hs : Path.segments "/blog".toList = some ["blog".toList] := by decide +kernel
  have hseg : optionalAction ∈ ss.drop 1 := by
    have he : (Pattern.parse frontPage.route.pattern).toOption.any
        (optionalAction ∈ ·.drop 1) = true := by
      decide +kernel
    simpa [hss, Except.toOption] using he
  obtain ⟨value, -, -, -, hgo⟩ := defaulted_selector_dispatchable blogs_reachable hm hss hs
    hseg (List.mem_singleton_self _) (by decide +kernel)
  exact ⟨blogs_reachable, hm, ss, _, hss, hs, hseg, rfl, hgo⟩

end Tree

end PathRouting
