import PathRouting.Proofs.Lookup.Greedy
import PathRouting.Proofs.Lookup.Validators

/-! # What a lookup reports

On its way a lookup reports a validator that the registry lacks, with the segment that calls it, and
a route whose endpoint does not expose what the selector gets by default.  The segments of the nodes
are those of patterns, so a validator that is reported is among the missing ones.
-/

namespace PathRouting

namespace Event

variable {e : Event}

theorem message_eq_unknown : e.message = "Unknown validator, skipping branch" ↔
    ∃ name raw, e = .unknownValidator name raw := by
  cases e <;> simp [message]

end Event

namespace Fit

variable {registry : Registry} {t name : Text} {bs : List Binding}

theorem of_segment_unknown {s : Segment} (h : (segment registry s t bs).1 = .unknown name) :
    registry.get? name = none ∧ name ∈ s.validators := by
  cases s with
  | plain text =>
    rw [segment] at h
    split at h <;> cases h
  | slotted raw ps =>
    obtain ⟨front, slot, rule, back, -, -, rfl, rfl, hget, -⟩ := unknown_iff_cut.1 h
    have hslot : (slot, rule) ∈ (Segment.slotted raw (front ++ .slot slot rule :: back)).slots :=
      List.mem_filterMap.2 ⟨_, List.mem_append_right _ List.mem_cons_self, rfl⟩
    exact ⟨hget, List.mem_map_of_mem hslot⟩
  | rest => cases h

end Fit

namespace Node

open Routes

variable {ε : Type} [Endpoint ε]

/-- The events that a lookup among some routes can report. -/
inductive Reported (rs : List (Route ε)) (registry : Registry) (method : Method) : Event → Prop
  | unknown {r : Route ε} {s : Segment} {name : Text} (mem : r ∈ rs) (segment : s ∈ r.segments)
      (named : name ∈ s.validators) (unregistered : registry.get? name = none) :
      Reported rs registry method (.unknownValidator name s.raw)
  | hidden {r : Route ε} {value : Text} (mem : r ∈ rs)
      (unexposed : Endpoint.supports r.endpoint method value = false) :
      Reported rs registry method
        (.selectorNotExposed (Endpoint.name r.endpoint) r.pattern method.token)

/-- All that is on the trail can be reported. -/
def Warranted (rs : List (Route ε)) (v : Sight) (trail : Trail) : Prop :=
  ∀ e ∈ trail.events, Reported rs v.registry v.method e

variable {rs : List (Route ε)} {v : Sight} {p : List Segment} {left : List Text} {n : Node ε}
  {trail trail' : Trail} {mark : Nat}

theorem Warranted.of_events (h : Warranted rs v trail) (he : trail'.events = trail.events) :
    Warranted rs v trail' := by
  rwa [Warranted, he]

theorem Warranted.report {e : Event} (h : Warranted rs v trail)
    (he : Reported rs v.registry v.method e) : Warranted rs v (trail.report e) :=
  List.forall_mem_append.2 ⟨h, List.forall_mem_singleton.2 he⟩

theorem warranted_orCutBack {result : Option (Hit ε) × Trail} (h : Warranted rs v result.2) :
    Warranted rs v (orCutBack mark result).2 := by
  obtain ⟨_ | hit, trail⟩ := result
  · exact h.of_events rfl
  · exact h

theorem exists_hidden {r : Route ε} {bs : List Binding} (h : ¬exposes v r mark bs = true) :
    ∃ value, Endpoint.supports r.endpoint v.method value = false := by
  by_contra hall
  simp only [not_exists, Bool.not_eq_false] at hall
  exact h (by simp [exposes, hall])

theorem Grown.fallBack_warranted (h : Grown rs p n) (ht : Warranted rs v trail) :
    Warranted rs v (fallBack v mark n trail).2 := by
  induction h generalizing trail with
  | @mk p n placed children ih =>
    by_cases hone : ∃ c, n.children = [c]
    · obtain ⟨c, hc⟩ := hone
      have hmem : c ∈ n.children := hc ▸ List.mem_singleton_self c
      rw [fallBack_of_one hc]
      cases c.optional? with
      | none => exact ht.of_events rfl
      | some b =>
        have hbind : Warranted rs v (trail.bind b) := ht.of_events rfl
        cases hr : c.route with
        | none => exact ih c hmem hbind
        | some r =>
          dsimp only
          split
          · exact hbind
          · rename_i hexposes
            obtain ⟨value, hhidden⟩ := exists_hidden hexposes
            have hr : r ∈ rs := ((children c hmem).placed.of_route_eq_some hr).1
            exact (hbind.report (.hidden hr hhidden)).of_events rfl
    · rw [fallBack_of_not_one hone]
      exact ht.of_events rfl

theorem Grown.settle_warranted (h : Grown rs p n) (ht : Warranted rs v trail) :
    Warranted rs v (settle v n trail).2 := by
  unfold settle
  cases n.route with
  | some r => exact ht
  | none =>
    cases n.children.find? isRest with
    | some c => exact ht
    | none => exact h.fallBack_warranted ht

theorem Grown.enter_warranted {below : List Text → Trail → Option (Hit ε) × Trail}
    (h : Grown rs p n) {r : Route ε} (hr : r ∈ rs) (hp : p <+: r.segments)
    (hbelow : ∀ left trail, Warranted rs v trail → Warranted rs v (below left trail).2)
    (ht : Warranted rs v trail) : Warranted rs v (enter v below n left trail).2 := by
  unfold enter
  split
  · exact ht
  · rename_i s t left _ hl
    -- the node keeps one copy of a segment that routes share, and it is the last of `p`
    have hs : s ∈ r.segments := hp.subset (List.mem_of_getLast? (h.placed.label.symm.trans hl))
    dsimp only
    split
    · rename_i bs _
      have hbound : Warranted rs v { trail with bindings := bs } := ht.of_events rfl
      apply warranted_orCutBack
      split
      · exact h.settle_warranted hbound
      · exact hbelow left _ hbound
    · exact ht.of_events rfl
    · rename_i name bs hfit
      obtain ⟨hget, hname⟩ := Fit.of_segment_unknown (congrArg Prod.fst hfit)
      exact (ht.report (.unknown hr hs hname hget)).of_events rfl
  · exact ht

theorem firstHit_warranted {cs : List (Node ε)}
    (hcs : ∀ c ∈ cs, ∀ trail, Warranted rs v trail → Warranted rs v (descend v c left trail).2)
    (ht : Warranted rs v trail) : Warranted rs v (firstHit v cs left trail).2 := by
  induction cs generalizing trail with
  | nil => exact ht
  | cons c cs ih =>
    obtain ⟨hc, hcs⟩ := List.forall_mem_cons.1 hcs
    rw [firstHit]
    have hfirst := hc trail ht
    generalize descend v c left trail = result at hfirst ⊢
    obtain ⟨hit, trail⟩ := result
    cases hit with
    | some hit => exact hfirst
    | none => exact ih hcs hfirst

theorem Grown.descend_warranted (h : Grown rs p n) {r : Route ε} (hr : r ∈ rs)
    (hp : p <+: r.segments) (ht : Warranted rs v trail) :
    Warranted rs v (descend v n left trail).2 := by
  induction h generalizing left trail r with
  | @mk p n placed children ih =>
    cases hreach : reaches n.depth n.height v.length with
    | false =>
      rw [descend_of_not_reaches hreach]
      exact ht
    | true =>
      rw [descend_of_reaches hreach]
      have hg : Grown rs p n := .mk placed children
      -- the route that goes on to a child need not be `r`
      refine hg.enter_warranted hr hp (fun left trail ht => ?_) ht
      refine firstHit_warranted (fun c hc trail ht => ?_) ht
      obtain ⟨r, hr, hp⟩ := placed.exists_route hc
      exact ih c hc hr hp ht

theorem Grown.walk_warranted (h : Grown rs [] n) : Warranted rs v (walk v n left).2 := by
  have hstart : Warranted rs v .start := nofun
  cases left with
  | nil => exact h.settle_warranted hstart
  | cons t left =>
    refine firstHit_warranted (fun c hc trail ht => ?_) hstart
    obtain ⟨r, hr, hp⟩ := h.placed.exists_route hc
    exact (h.child hc).descend_warranted hr hp ht

end Node

namespace Tree

variable {ε : Type} [Endpoint ε] {t : Tree ε} {method : Method} {path : Text} {e : Event}

theorem events_lookupLogged {s : List Text} (hs : Path.segments path = some s) :
    (t.lookupLogged method path).events = (t.root.walk (t.sight method path s) s).2.events := by
  rw [lookupLogged, hs]
  cases s <;> rfl

/-- A lookup reports unknown validators and hidden defaults of its routes, and nothing else. -/
theorem Sound.reported (ht : t.Sound) (he : e ∈ (t.lookupLogged method path).events) :
    Node.Reported t.routes t.registry method e := by
  cases hs : Path.segments path with
  | none =>
    rw [lookupLogged, hs] at he
    cases he
  | some s =>
    have hwalk : Node.Warranted t.routes (t.sight method path s)
        (t.root.walk (t.sight method path s) s).2 :=
      ht.grown.walk_warranted
    rw [events_lookupLogged hs] at he
    exact hwalk e he

theorem Sound.of_unknown (ht : t.Sound) (he : e ∈ (t.lookupLogged method path).events)
    (hmessage : e.message = "Unknown validator, skipping branch") :
    ∃ name ∈ t.missingValidators, ∃ r ∈ t.routes, ∃ ss s, Pattern.parse r.pattern = .ok ss ∧
      s ∈ ss ∧ name ∈ s.validators ∧ e = .unknownValidator name s.raw := by
  obtain ⟨name, raw, rfl⟩ := Event.message_eq_unknown.1 hmessage
  cases ht.reported he with
  | @unknown r s _ hr hs hname hget =>
    have hparse := Pattern.parse_of_read (ht.read r hr)
    have hmissing : name ∈ t.missingValidators := by
      refine ht.mem_missingValidators.2 ⟨⟨r, hr, List.mem_flatMap.2 ⟨s, hs, hname⟩⟩, ?_⟩
      rw [Dictionary.contains, hget]
      rfl
    exact ⟨name, hmissing, r, hr, r.segments, s, hparse, hs, hname, rfl⟩

/-- Missing, in ascending order, is exactly what the placeholders of the patterns call and the
registry lacks.  A lookup reports only missing validators as unknown, each with a segment that calls
it, and none where nothing is missing. -/
theorem missingValidators_exact (h : t.Reachable) :
    t.missingValidators.Pairwise (· < ·) ∧
      (∀ name, name ∈ t.missingValidators ↔
        (∃ r ∈ t.routes, ∃ ss, Pattern.parse r.pattern = .ok ss ∧
          ∃ s ∈ ss, ∃ slot ∈ s.slots, slot.2.validator = name) ∧
        t.registry.get? name = none) ∧
      (∀ method path, ∀ e ∈ (t.lookupLogged method path).events,
        e.message = "Unknown validator, skipping branch" →
          ∃ name ∈ t.missingValidators, ∃ r ∈ t.routes, ∃ ss s, Pattern.parse r.pattern = .ok ss ∧
            s ∈ ss ∧ name ∈ s.validators ∧ e = .unknownValidator name s.raw) ∧
      (t.missingValidators = [] → ∀ method path, ∀ e ∈ (t.lookupLogged method path).events,
        e.message ≠ "Unknown validator, skipping branch") := by
  refine ⟨t.pairwise_missingValidators, fun name => ?_,
    fun method path e he => h.sound.of_unknown he, fun hnil method path e he hmessage => ?_⟩
  · rw [h.sound.mem_missingValidators]
    refine and_congr (exists_congr fun r => and_congr_right fun hr => ?_) ?_
    · rw [h.sound.mem_validators_of_mem hr]
      simp only [Segment.validators, List.mem_map]
    · simp [Dictionary.contains]
  · obtain ⟨name, hname, -⟩ := h.sound.of_unknown he hmessage
    rw [hnil] at hname
    cases hname

/-- Articles by number and title, with digits as the only validator. -/
def articles : Tree Controller :=
  (empty Fit.digitsOnly usualSelector).attemptAll
    [⟨"/article/<id:int>/<action>".toList, .of "article".toList⟩,
      ⟨"/article/<title>".toList, .of "titled".toList⟩]

theorem articles_reachable : articles.Reachable := (Reachable.empty ..).attemptAll _

/-- Validators that no placeholder spells are missing too, and with the built-in ones none is. -/
theorem articles_missing :
    articles.Reachable ∧ articles.missingValidators = ["action".toList, "any".toList] ∧
      (articles.lookupLogged .get "/article/7/edit".toList).events =
        [.unknownValidator "action".toList "<action>".toList] ∧
      "action".toList ∈ articles.missingValidators ∧
      ({ articles with registry := .builtIn } : Tree Controller).missingValidators = [] ∧
      ∀ e ∈ (({ articles with registry := .builtIn } : Tree Controller).lookupLogged .get
          "/article/7/edit".toList).events,
        e.message ≠ "Unknown validator, skipping branch" := by
  have hevents : (articles.lookupLogged .get "/article/7/edit".toList).events =
      [.unknownValidator "action".toList "<action>".toList] := by
    decide +kernel
  have hnone : ({ articles with registry := .builtIn } : Tree Controller).missingValidators = [] := by
    decide +kernel
  obtain ⟨-, -, hreported, -⟩ := missingValidators_exact articles_reachable
  obtain ⟨-, -, -, hsilent⟩ :=
    missingValidators_exact (articles_reachable.equip .builtIn articles.selector)
  refine ⟨articles_reachable, by decide +kernel, hevents, ?_, hnone,
    hsilent hnone .get "/article/7/edit".toList⟩
  have hreport := hreported .get "/article/7/edit".toList
  rw [hevents] at hreport
  obtain ⟨name, hname, -, -, -, s, -, -, -, he⟩ := hreport _ (List.mem_singleton_self _) rfl
  obtain ⟨rfl, -⟩ := Event.unknownValidator.inj he
  exact hname

end Tree

end PathRouting
