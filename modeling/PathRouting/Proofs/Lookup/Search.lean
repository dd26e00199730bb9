import PathRouting.Proofs.Lookup.Walk
import PathRouting.Proofs.Tree.Reachable

/-! # Lookup is a search among the routes

Of the routes that accept the segments of a path, one comes before all others, and a lookup answers
with it.  The nodes that routes share and the branches that are tried and left again make no
difference.
-/

namespace PathRouting

namespace Routes

variable {ε : Type} {registry : Registry}

theorem Takes.unique {s : Segment} {t : Text} {bs bs' : List Binding}
    (h : Takes registry s t bs) (h' : Takes registry s t bs') : bs = bs' := by
  have he := (Fit.takes_iff.1 h).symm.trans (Fit.takes_iff.1 h')
  exact (Prod.mk.inj he).2

theorem TakesAll.unique {ss : List Segment} {ts : List Text} {bs bs' : List Binding}
    (h : TakesAll registry ss ts bs) (h' : TakesAll registry ss ts bs') : bs = bs' := by
  induction h generalizing bs' with
  | nil =>
    cases h'
    rfl
  | cons head _ ih =>
    cases h' with
    | cons head' tail' => rw [head.unique head', ih tail']

theorem TakesAll.rest_notMem {ss : List Segment} {ts : List Text} {bs : List Binding}
    (h : TakesAll registry ss ts bs) : .rest ∉ ss := by
  induction h with
  | nil => exact List.not_mem_nil
  | cons head _ ih =>
    rintro (_ | ⟨_, hrest⟩)
    · cases head
    · exact ih hrest

theorem Lapses.bindings {rs : List (Route ε)} {walked back : List Segment} {bs : List Binding}
    (h : Lapses rs walked back bs) : back.map Segment.optional? = bs.map some := by
  induction h with
  | nil => rfl
  | cons _ _ optional _ ih => rw [List.map_cons, List.map_cons, optional, ih]

theorem Lapses.optional {rs : List (Route ε)} {walked back : List Segment} {bs : List Binding}
    (h : Lapses rs walked back bs) {s : Segment} (hs : s ∈ back) :
    ∃ b ∈ bs, s.optional? = some b := by
  have hmem := List.mem_map_of_mem (f := Segment.optional?) hs
  rw [h.bindings] at hmem
  obtain ⟨b, hb, he⟩ := List.mem_map.1 hmem
  exact ⟨b, hb, he.symm⟩

theorem Lapses.exists_optional {rs : List (Route ε)} {walked back : List Segment}
    {bs : List Binding} (h : Lapses rs walked back bs) {b : Binding} (hb : b ∈ bs) :
    ∃ s ∈ back, s.optional? = some b := by
  have hmem := List.mem_map_of_mem (f := some) hb
  rw [← h.bindings] at hmem
  exact List.mem_map.1 hmem

theorem Lapses.rest_notMem {rs : List (Route ε)} {walked back : List Segment} {bs : List Binding}
    (h : Lapses rs walked back bs) : .rest ∉ back := by
  intro hrest
  obtain ⟨b, -, hb⟩ := h.optional hrest
  cases hb

theorem length_le_of_parting {q p a b : List Text} {s s' : Text} (ha : q ++ [s] <+: a)
    (hb : q ++ [s'] <+: b) (hne : s ≠ s') (hpa : p <+: a) (hpb : p <+: b) :
    p.length ≤ q.length := by
  by_contra hlt
  have hle : (q ++ [s]).length ≤ p.length := by
    rw [List.length_append, List.length_singleton]
    omega
  have hle' : (q ++ [s']).length ≤ p.length := by simpa using hle
  have hs := List.prefix_of_prefix_length_le ha hpa hle
  have hs' := List.prefix_of_prefix_length_le hb hpb hle'
  have he := (List.prefix_of_prefix_length_le hs hs' (by simp)).eq_of_length (by simp)
  exact hne (List.singleton_inj.1 (List.append_cancel_left he))

theorem Precedes.asymm {rs : List (Route ε)} {a b : Route ε} (h : Precedes rs a b) :
    ¬Precedes rs b a := by
  obtain ⟨q, s, s', ha, hb, hlt⟩ := h
  rintro ⟨q', u, u', hb', ha', hlt'⟩
  have hne : s ≠ s' := by
    rintro rfl
    exact Nat.lt_irrefl _ hlt
  have hne' : u' ≠ u := by
    rintro rfl
    exact Nat.lt_irrefl _ hlt'
  have hqa := (List.prefix_append q [s]).trans ha
  have hqa' := (List.prefix_append q' [u']).trans ha'
  have hlen : q.length = q'.length := Nat.le_antisymm
    (length_le_of_parting ha' hb' hne' hqa ((List.prefix_append ..).trans hb))
    (length_le_of_parting ha hb hne hqa' ((List.prefix_append ..).trans hb'))
  obtain rfl := (List.prefix_of_prefix_length_le hqa hqa' (Nat.le_of_eq hlen)).eq_of_length hlen
  have hs : q ++ [s] = q ++ [u'] :=
    (List.prefix_of_prefix_length_le ha ha' (by simp)).eq_of_length (by simp)
  have hs' : q ++ [s'] = q ++ [u] :=
    (List.prefix_of_prefix_length_le hb hb' (by simp)).eq_of_length (by simp)
  rw [hs, hs'] at hlt
  exact Nat.lt_asymm hlt hlt'

variable [Endpoint ε] {rs : List (Route ε)} {v : Sight} {r : Route ε} {walked todo : List Segment}
  {left : List Text} {bs bs' : List Binding} {rest rest' : Option Text}

theorem Accepts.cases (h : Accepts rs v r walked todo left bs rest) :
    (.rest ∉ todo ∧ todo.length = left.length ∧ TakesAll v.registry todo left bs ∧ rest = none) ∨
      (∃ front taken spare, todo = front ++ [.rest] ∧ left = taken ++ spare ∧
        TakesAll v.registry front taken bs ∧ rest = some (v.restText spare)) ∨
      (.rest ∉ todo ∧ left.length < todo.length ∧ rest = none ∧ ∃ front back bs₁ bs₂,
        todo = front ++ back ∧ bs = bs₁ ++ bs₂ ∧ TakesAll v.registry front left bs₁ ∧
        Lapses rs (walked ++ front) back bs₂) := by
  cases h with
  | direct takes => exact .inl ⟨takes.rest_notMem, takes.length_eq.symm, takes, rfl⟩
  | rest takes free => exact .inr (.inl ⟨_, _, _, rfl, rfl, takes, rfl⟩)
  | defaults takes ne_nil lapses exposes =>
    refine .inr (.inr ⟨?_, ?_, rfl, _, _, _, _, rfl, rfl, takes, lapses⟩)
    · rw [List.mem_append]
      exact not_or.2 ⟨takes.rest_notMem, lapses.rest_notMem⟩
    · have := List.length_pos_of_ne_nil ne_nil
      rw [takes.length_eq, List.length_append]
      omega

theorem Accepts.unique (h : Accepts rs v r walked todo left bs rest)
    (h' : Accepts rs v r walked todo left bs' rest') : bs = bs' ∧ rest = rest' := by
  -- the rest marker and the lengths rule out that it accepts in two of the ways at once
  rcases h.cases with ⟨hn, hlen, ht, rfl⟩ | ⟨front, taken, spare, rfl, rfl, ht, rfl⟩ |
      ⟨hn, hlen, rfl, front, back, bs₁, bs₂, rfl, rfl, ht, hl⟩ <;>
    rcases h'.cases with ⟨hn', hlen', ht', rfl⟩ | ⟨front', taken', spare', he, he', ht', rfl⟩ |
      ⟨hn', hlen', rfl, front', back', bs₁', bs₂', he, rfl, ht', hl'⟩
  · exact ⟨ht.unique ht', rfl⟩
  · exact absurd (he ▸ by simp) hn
  · omega
  · exact absurd (by simp) hn'
  · obtain rfl := List.append_inj_left' he rfl
    obtain ⟨rfl, rfl⟩ := List.append_inj he' (ht.length_eq.trans ht'.length_eq.symm)
    exact ⟨ht.unique ht', rfl⟩
  · exact absurd (by simp) hn'
  · omega
  · exact absurd (he ▸ by simp) hn
  · obtain ⟨rfl, rfl⟩ := List.append_inj he (ht.length_eq.symm.trans ht'.length_eq)
    have hb : bs₂.map some = bs₂'.map some := hl.bindings.symm.trans hl'.bindings
    rw [ht.unique ht', List.map_injective_iff.2 (fun _ _ => Option.some.inj) hb]
    exact ⟨rfl, rfl⟩

/-- The route `r` accepts the segments of a path, and all others that do come after it. -/
structure Chosen (rs : List (Route ε)) (v : Sight) (s : List Text) (r : Route ε)
    (bs : List Binding) (rest : Option Text) : Prop where
  mem : r ∈ rs
  accepts : Accepts rs v r [] r.segments s bs rest
  first : ∀ r' ∈ rs, ∀ bs' rest', Accepts rs v r' [] r'.segments s bs' rest' →
    r' = r ∨ Precedes rs r r'

theorem Chosen.unique {s : List Text} {r' : Route ε} (h : Chosen rs v s r bs rest)
    (h' : Chosen rs v s r' bs' rest') : r = r' ∧ bs = bs' ∧ rest = rest' := by
  have hr : r = r' := by
    rcases h.first r' h'.mem bs' rest' h'.accepts with he | hlt
    · exact he.symm
    · rcases h'.first r h.mem bs rest h.accepts with he | hlt'
      · exact he
      · exact absurd hlt' hlt.asymm
  subst hr
  exact ⟨rfl, h.accepts.unique h'.accepts⟩

theorem acceptsAfter_root {s : List Text} :
    AcceptsAfter rs v [] s r bs rest ↔ r ∈ rs ∧ Accepts rs v r [] r.segments s bs rest := by
  simp [AcceptsAfter]

theorem chosen_of_first {s : List Text} (h : Node.First rs v [] s (fun _ => True) r bs rest) :
    Chosen rs v s r bs rest where
  mem := (acceptsAfter_root.1 h.accepts).1
  accepts := (acceptsAfter_root.1 h.accepts).2
  first r' hr' bs' rest' ha := h.first r' bs' rest' trivial (acceptsAfter_root.2 ⟨hr', ha⟩)

end Routes

namespace Tree

open Routes

variable {ε : Type}

def sight (t : Tree ε) (method : Method) (path : Text) (s : List Text) : Sight :=
  ⟨method, s.length, path.getLast? == some '/', t.registry, t.selector⟩

theorem restText_sight (t : Tree ε) (method : Method) (path : Text) (s left : List Text) :
    (t.sight method path s).restText left = Text.join '/' left ++
      if path.getLast? = some '/' ∧ Text.join '/' left ≠ [] then ['/'] else [] := by
  simp only [Sight.restText, sight, Bool.and_eq_true, beq_iff_eq, bne_iff_ne]
  split
  · rfl
  · exact (List.append_nil _).symm

variable [Endpoint ε] {t : Tree ε} {method : Method} {path : Text} {s : List Text}

theorem lookup_of_malformed (hs : Path.segments path = none) :
    t.lookup method path = .malformed path := by
  rw [lookup, lookupLogged, hs]

theorem lookup_eq_walk (hs : Path.segments path = some s) :
    t.lookup method path = ((t.root.walk (t.sight method path s) s).1.elim .notFound fun hit =>
      .matched (.ofHit t.selector hit (t.root.walk (t.sight method path s) s).2.bindings)) := by
  rw [lookup, lookupLogged, hs]
  cases s <;> rfl

theorem Sound.lookup_cases (ht : t.Sound) (method : Method) (hs : Path.segments path = some s) :
    (∃ r bs rest, Chosen t.routes (t.sight method path s) s r bs rest ∧
      t.lookup method path = .matched (.ofHit t.selector ⟨r, rest⟩ bs)) ∨
      (t.lookup method path = .notFound ∧ ∀ r ∈ t.routes, ∀ bs rest,
        ¬Accepts t.routes (t.sight method path s) r [] r.segments s bs rest) := by
  have hlen : s.length = (t.sight method path s).length := rfl
  have hanswers := ht.grown.walk_answers ht.distinct hlen
  rw [lookup_eq_walk hs]
  match t.root.walk (t.sight method path s) s, hanswers with
  | (some hit, trail), ⟨bs, hb, hfirst⟩ =>
    obtain rfl : trail.bindings = bs := hb
    exact .inl ⟨hit.route, trail.bindings, hit.rest, chosen_of_first hfirst, rfl⟩
  | (none, trail), ⟨_, hno⟩ =>
    exact .inr ⟨rfl, fun r hr bs rest ha => hno r bs rest trivial (acceptsAfter_root.2 ⟨hr, ha⟩)⟩

theorem lookup_eq_malformed {p : Text} (ht : t.Sound) :
    t.lookup method path = .malformed p ↔ p = path ∧ Path.segments path = none := by
  cases hs : Path.segments path with
  | none => simp [lookup_of_malformed hs, eq_comm]
  | some s => rcases ht.lookup_cases method hs with ⟨r, bs, rest, -, he⟩ | ⟨he, -⟩ <;> simp [he]

theorem lookup_eq_notFound (ht : t.Sound) :
    t.lookup method path = .notFound ↔ ∃ s, Path.segments path = some s ∧
      ∀ r ∈ t.routes, ∀ bs rest,
        ¬Accepts t.routes (t.sight method path s) r [] r.segments s bs rest := by
  constructor
  · intro he
    cases hs : Path.segments path with
    | none => simp [lookup_of_malformed hs] at he
    | some s =>
      rcases ht.lookup_cases method hs with ⟨r, bs, rest, -, he'⟩ | ⟨-, hno⟩
      · simp [he] at he'
      · exact ⟨s, rfl, hno⟩
  · rintro ⟨s, hs, hno⟩
    rcases ht.lookup_cases method hs with ⟨r, bs, rest, hc, -⟩ | ⟨he, -⟩
    · exact absurd hc.accepts (hno r hc.mem bs rest)
    · exact he

theorem lookup_eq_matched {m : Match ε} (ht : t.Sound) :
    t.lookup method path = .matched m ↔ ∃ s r bs rest, Path.segments path = some s ∧
      Chosen t.routes (t.sight method path s) s r bs rest ∧
      m = .ofHit t.selector ⟨r, rest⟩ bs := by
  constructor
  · intro he
    cases hs : Path.segments path with
    | none => simp [lookup_of_malformed hs] at he
    | some s =>
      rcases ht.lookup_cases method hs with ⟨r, bs, rest, hc, he'⟩ | ⟨he', -⟩
      · exact ⟨s, r, bs, rest, rfl, hc, Outcome.matched.inj (he.symm.trans he')⟩
      · simp [he] at he'
  · rintro ⟨s, r, bs, rest, hs, hc, rfl⟩
    rcases ht.lookup_cases method hs with ⟨r', bs', rest', hc', he⟩ | ⟨-, hno⟩
    · obtain ⟨rfl, rfl, rfl⟩ := hc.unique hc'
      exact he
    · exact absurd hc.accepts (hno r hc.mem bs rest)

/-- A lookup in the tree is a search of the list of routes: the first that accepts the path, in the
order of branching, answers with what it binds. -/
theorem lookup_eq_search (h : t.Reachable) (method : Method) (path : Text) :
    (∀ p, t.lookup method path = .malformed p ↔ p = path ∧ Path.segments path = none) ∧
      (t.lookup method path = .notFound ↔ ∃ s, Path.segments path = some s ∧
        ∀ r ∈ t.routes, ∀ bs rest,
          ¬Accepts t.routes (t.sight method path s) r [] r.segments s bs rest) ∧
      ∀ m, t.lookup method path = .matched m ↔ ∃ s r bs rest, Path.segments path = some s ∧
        Chosen t.routes (t.sight method path s) s r bs rest ∧
        m = .ofHit t.selector ⟨r, rest⟩ bs :=
  ⟨fun _ => lookup_eq_malformed h.sound, lookup_eq_notFound h.sound,
    fun _ => lookup_eq_matched h.sound⟩

/-- Pages by number, and what lies below a page by name. -/
def pages : Tree Controller :=
  (empty .builtIn usualSelector).attemptAll
    [⟨"/page/<id:int>".toList, .of "numbered".toList⟩,
      ⟨"/page/<name>/*pathInfo".toList, .of "named".toList⟩]

theorem pages_reachable : pages.Reachable := (Reachable.empty ..).attemptAll _

/-- Both routes accept page 7, and the first one registered answers. -/
theorem numbered_page_chosen :
    pages.Reachable ∧ ∃ s r bs rest, Path.segments "/page/7".toList = some s ∧
      Chosen pages.routes (pages.sight .get "/page/7".toList s) s r bs rest ∧
      ⟨⟨"/page/<id:int>".toList, .of "numbered".toList⟩,
        .ofList [("id".toList, "7".toList)], none⟩ = Match.ofHit pages.selector ⟨r, rest⟩ bs :=
  ⟨pages_reachable, ((lookup_eq_search pages_reachable .get "/page/7".toList).2.2 _).1
    (by decide +kernel)⟩

end Tree

end PathRouting
