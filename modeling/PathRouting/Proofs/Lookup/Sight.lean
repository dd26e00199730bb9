import PathRouting.Proofs.Lookup.Selector
import PathRouting.Proofs.Path

/-! # What an answer depends on

Of the method, an answer depends only on what the endpoints expose to it, and of the path only on
its segments and, for a rest marker, on the slash at the end.
-/

namespace PathRouting

/-- The slash that a rest marker takes after some segments of a path. -/
def Path.slashAfter (path : Text) (left : List Text) : Text :=
  if path.getLast? = some '/' ∧ left ≠ [] then ['/'] else []

namespace Routes

variable {ε : Type} [Endpoint ε] {rs : List (Route ε)} {v v' : Sight} {r : Route ε}
  {walked : List Segment} {s left : List Text} {bs : List Binding} {rest : Option Text}
  {m m' : Method}

/-- What the endpoints of the routes support with the method `m`, they support with `m'` as well. -/
def Widens (rs : List (Route ε)) (m m' : Method) : Prop :=
  ∀ r ∈ rs, ∀ value, Endpoint.supports r.endpoint m value = true →
    Endpoint.supports r.endpoint m' value = true

theorem Widens.refl : Widens rs m m := fun _ _ _ h => h

/-- What segments of the routes take with the first sight they take with the second one, and what
the endpoints expose with the first they expose with the second. -/
structure Covers (rs : List (Route ε)) (v v' : Sight) : Prop where
  takes : ∀ r ∈ rs, ∀ seg ∈ r.segments, ∀ t bs,
    Takes v.registry seg t bs → Takes v'.registry seg t bs
  exposes : ∀ r ∈ rs, ∀ bs, Exposes v r bs → Exposes v' r bs

theorem TakesAll.imp {registry registry' : Registry} {ss : List Segment} {ts : List Text}
    (h : TakesAll registry ss ts bs)
    (himp : ∀ seg ∈ ss, ∀ t bs, Takes registry seg t bs → Takes registry' seg t bs) :
    TakesAll registry' ss ts bs := by
  induction h with
  | nil => exact .nil
  | cons head _ ih =>
    obtain ⟨hseg, himp⟩ := List.forall_mem_cons.1 himp
    exact .cons (hseg _ _ head) (ih himp)

theorem Accepts.of_covers (h : Accepts rs v r walked r.segments left bs rest)
    (hc : Covers rs v v') (hr : r ∈ rs) :
    ∃ rest', Accepts rs v' r walked r.segments left bs rest' ∧
      (v.slash = v'.slash → rest' = rest) := by
  have himp := hc.takes r hr
  generalize r.segments = todo at h himp ⊢
  cases h with
  | direct takes => exact ⟨none, .direct (takes.imp himp), fun _ => rfl⟩
  | @rest front taken left _ takes free =>
    have takes := takes.imp fun seg hseg => himp seg (List.mem_append_left _ hseg)
    refine ⟨some (v'.restText left), .rest takes free, ?_⟩
    intro hslash
    rw [Sight.restText, Sight.restText, hslash]
  | defaults takes ne_nil lapses exposes =>
    have takes := takes.imp fun seg hseg => himp seg (List.mem_append_left _ hseg)
    exact ⟨none, .defaults takes ne_nil lapses (hc.exposes r hr _ exposes), fun _ => rfl⟩

theorem Chosen.of_covers (h : Chosen rs v s r bs rest) (hc : Covers rs v v')
    (hc' : Covers rs v' v) :
    ∃ rest', Chosen rs v' s r bs rest' ∧ (v.slash = v'.slash → rest' = rest) := by
  obtain ⟨rest', ha, hslash⟩ := h.accepts.of_covers hc h.mem
  refine ⟨rest', ⟨h.mem, ha, ?_⟩, hslash⟩
  intro r' hr' bs' text' ha'
  obtain ⟨text, ha, -⟩ := ha'.of_covers hc' hr'
  exact h.first r' hr' bs' text ha

end Routes

namespace Controller

variable {c : Controller} {m : Method} {value : Text}

theorem supports_eq_true : c.supports m value = true ↔
    ∃ methods, c.actions.get? value = some methods ∧
      (methods = [] ∨ m ∈ methods ∨ m = .head ∧ .get ∈ methods) := by
  simp only [supports, Option.any_eq_true, accepts, Bool.or_eq_true, Bool.and_eq_true, beq_iff_eq,
    List.isEmpty_iff, List.contains_iff_mem, or_assoc]

theorem supports_head_of_get (h : c.supports .get value = true) :
    c.supports .head value = true := by
  obtain ⟨methods, hmethods, hempty | hget | ⟨-, hget⟩⟩ := supports_eq_true.1 h
  · exact supports_eq_true.2 ⟨methods, hmethods, .inl hempty⟩
  · exact supports_eq_true.2 ⟨methods, hmethods, .inr (.inr ⟨rfl, hget⟩)⟩
  · exact supports_eq_true.2 ⟨methods, hmethods, .inr (.inr ⟨rfl, hget⟩)⟩

theorem supports_get_of_head (h : c.supports .head value = true)
    (hnamed : ∀ action methods, c.actions.get? action = some methods → .head ∈ methods →
      .get ∈ methods) : c.supports .get value = true := by
  obtain ⟨methods, hmethods, hempty | hhead | ⟨-, hget⟩⟩ := supports_eq_true.1 h
  · exact supports_eq_true.2 ⟨methods, hmethods, .inl hempty⟩
  · have hget := hnamed value methods hmethods hhead
    exact supports_eq_true.2 ⟨methods, hmethods, .inr (.inl hget)⟩
  · exact supports_eq_true.2 ⟨methods, hmethods, .inr (.inl hget)⟩

end Controller

theorem Routes.widens_get_head {rs : List (Route Controller)} : Widens rs .get .head :=
  fun _ _ _ => Controller.supports_head_of_get

namespace Tree

open Routes

variable {ε : Type}

theorem restText_of_ne_nil {s left : List Text} (t : Tree ε) (method : Method) (path : Text)
    (h : ∀ p ∈ left, p ≠ []) :
    (t.sight method path s).restText left = Text.join '/' left ++ Path.slashAfter path left := by
  rw [restText_sight, Path.slashAfter]
  simp only [ne_eq, Text.join_eq_nil h]

variable [Endpoint ε] {t : Tree ε} {m₁ m₂ : Method} {path path' : Text} {s : List Text}

theorem covers_sight (h : Widens t.routes m₁ m₂) :
    Covers t.routes (t.sight m₁ path s) (t.sight m₂ path' s) where
  takes _ _ _ _ _ _ htakes := htakes
  exposes r hr _ hexposes b hb hname := h r hr b.2 (hexposes b hb hname)

theorem Sound.matched_of_widens (ht : t.Sound) (hwide : Widens t.routes m₁ m₂) {m : Match ε}
    (hm : t.lookup m₁ path = .matched m) : ∃ m', t.lookup m₂ path = .matched m' := by
  obtain ⟨s, r, bs, rest, hs, hc, -⟩ := (lookup_eq_matched ht).1 hm
  rcases ht.lookup_cases m₂ hs with ⟨r', bs', rest', -, he⟩ | ⟨-, hno⟩
  · exact ⟨_, he⟩
  · obtain ⟨rest', ha, -⟩ := hc.accepts.of_covers (covers_sight hwide) hc.mem
    exact absurd ha (hno r hc.mem bs rest')

/-- Two lookups of the same segments, with methods that are let in alike, find nothing both, or
the same route with the same bindings. -/
theorem Sound.lookup_alike (ht : t.Sound) (hs : Path.segments path = some s)
    (hs' : Path.segments path' = some s) (hwide : Widens t.routes m₁ m₂)
    (hwide' : Widens t.routes m₂ m₁) :
    (t.lookup m₁ path = .notFound ∧ t.lookup m₂ path' = .notFound) ∨
      ∃ r bs rest rest', Chosen t.routes (t.sight m₁ path s) s r bs rest ∧
        Chosen t.routes (t.sight m₂ path' s) s r bs rest' ∧ (path = path' → rest' = rest) ∧
        t.lookup m₁ path = .matched (.ofHit t.selector ⟨r, rest⟩ bs) ∧
        t.lookup m₂ path' = .matched (.ofHit t.selector ⟨r, rest'⟩ bs) := by
  rcases ht.lookup_cases m₁ hs with ⟨r, bs, rest, hc, he⟩ | ⟨he, hno⟩
  · obtain ⟨rest', hc', hslash⟩ := hc.of_covers (covers_sight hwide) (covers_sight hwide')
    have he' := (lookup_eq_matched ht).2 ⟨s, r, bs, rest', hs', hc', rfl⟩
    refine .inr ⟨r, bs, rest, rest', hc, hc', ?_, he, he'⟩
    rintro rfl
    exact hslash rfl
  · refine .inl ⟨he, (lookup_eq_notFound ht).2 ⟨s, hs', ?_⟩⟩
    intro r hr bs rest ha
    have hcovers : Covers t.routes (t.sight m₂ path' s) (t.sight m₁ path s) := covers_sight hwide'
    obtain ⟨rest', ha', -⟩ := ha.of_covers hcovers hr
    exact hno r hr bs rest' ha'

/-! ## The method -/

theorem Sound.lookup_eq_of_widens (ht : t.Sound) (path : Text) (hwide : Widens t.routes m₁ m₂)
    (hwide' : Widens t.routes m₂ m₁) : t.lookup m₁ path = t.lookup m₂ path := by
  cases hs : Path.segments path with
  | none => rw [lookup_of_malformed hs, lookup_of_malformed hs]
  | some s =>
    rcases ht.lookup_alike hs hs hwide hwide' with
      ⟨he, he'⟩ | ⟨r, bs, rest, rest', -, -, hrest, he, he'⟩
    · rw [he, he']
    · rw [he, he', hrest rfl]

theorem Sound.isDispatchable_of_widens (ht : t.Sound) (hwide : Widens t.routes m₁ m₂)
    (hwide' : Widens t.routes m₂ m₁) {m : Match ε} {method : Method}
    (hm : t.lookup method path = .matched m) : m.isDispatchable m₁ = m.isDispatchable m₂ := by
  obtain ⟨s, r, bs, rest, -, hc, rfl⟩ := (lookup_eq_matched ht).1 hm
  have hsupports : Endpoint.supports r.endpoint m₁ = Endpoint.supports r.endpoint m₂ := by
    funext value
    exact Bool.eq_iff_iff.2 ⟨hwide r hc.mem value, hwide' r hc.mem value⟩
  exact congrArg (Option.all · _) hsupports

/-- An answer depends on the method only through what the endpoints expose to it, and exposing more
takes no answer away.  `HEAD` is let in wherever `GET` is, and alike if no action names it alone. -/
theorem answer_by_exposure :
    (∀ {ε : Type} [Endpoint ε] {t : Tree ε}, t.Reachable → ∀ path m₁ m₂,
      Widens t.routes m₁ m₂ →
        ((∃ m, t.lookup m₁ path = .matched m) → ∃ m, t.lookup m₂ path = .matched m) ∧
        (Widens t.routes m₂ m₁ → t.lookup m₁ path = t.lookup m₂ path)) ∧
    ∀ {t : Tree Controller}, t.Reachable → ∀ path,
      ((∃ m, t.lookup .get path = .matched m) → ∃ m, t.lookup .head path = .matched m) ∧
      ((∀ r ∈ t.routes, ∀ action methods, r.endpoint.actions.get? action = some methods →
          .head ∈ methods → .get ∈ methods) →
        t.lookup .head path = t.lookup .get path ∧
        ∀ m, t.lookup .get path = .matched m → m.isDispatchable .head = m.isDispatchable .get) := by
  refine ⟨fun h path m₁ m₂ hwide => ⟨?_, ?_⟩, fun {t} h path => ⟨?_, ?_⟩⟩
  · rintro ⟨m, hm⟩
    exact h.sound.matched_of_widens hwide hm
  · intro hwide'
    exact h.sound.lookup_eq_of_widens path hwide hwide'
  · rintro ⟨m, hm⟩
    exact h.sound.matched_of_widens widens_get_head hm
  · intro hnamed
    have hwide : Widens t.routes .head .get := fun r hr value hvalue =>
      Controller.supports_get_of_head hvalue (hnamed r hr)
    refine ⟨h.sound.lookup_eq_of_widens path hwide widens_get_head, ?_⟩
    intro m hm
    exact h.sound.isDispatchable_of_widens hwide widens_get_head hm

/-- The front page of a blog answers to `HEAD` as it does to `GET`. -/
theorem frontPage_for_head :
    blogs.Reachable ∧ blogs.lookup .get "/blog".toList = .matched frontPage ∧
      blogs.lookup .head "/blog".toList = .matched frontPage ∧
      frontPage.isDispatchable .head = true := by
  have hm : blogs.lookup .get "/blog".toList = .matched frontPage := by decide +kernel
  have hroutes : blogs.routes = [⟨"/blog/<page=1:int>/<action=list>".toList, blog⟩] := by
    decide +kernel
  have hnamed : ∀ r ∈ blogs.routes, ∀ action methods,
      r.endpoint.actions.get? action = some methods → .head ∈ methods → .get ∈ methods := by
    intro r hr action methods hmethods hhead
    rw [hroutes] at hr
    obtain rfl := List.mem_singleton.1 hr
    rw [blog, Controller.withAction, Dictionary.get?_insert] at hmethods
    split at hmethods
    · cases hmethods
      exact List.mem_singleton_self _
    · cases hmethods
  obtain ⟨hsame, hgo⟩ := (answer_by_exposure.2 blogs_reachable "/blog".toList).2 hnamed
  refine ⟨blogs_reachable, hm, hsame.trans hm, ?_⟩
  rw [hgo frontPage hm]
  decide +kernel

/-! ## The path -/

/-- Paths of the same segments have the same answer, but for a slash at the end of what a rest
marker takes: it is there if the path ends with one and the marker takes some segments. -/
theorem answer_by_segments (h : t.Reachable) (method : Method)
    (hs : Path.segments path = some s) (hs' : Path.segments path' = some s) :
    (t.lookup method path = .notFound ∧ t.lookup method path' = .notFound) ∨
      ∃ m m' ss, t.lookup method path = .matched m ∧ t.lookup method path' = .matched m' ∧
        m.route = m'.route ∧ Pattern.parse m.route.pattern = .ok ss ∧
        (∀ k, ¬(k = Segment.restName ∧ ss.getLast? = some .rest) →
          m.params.get? k = m'.params.get? k) ∧
        (ss.getLast? = some .rest →
          let left := s.drop (ss.length - 1)
          let text := Text.join '/' left
          text.getLast? ≠ some '/' ∧
          m.params.get? Segment.restName = some (text ++ Path.slashAfter path left) ∧
          m'.params.get? Segment.restName = some (text ++ Path.slashAfter path' left)) := by
  rcases h.sound.lookup_alike hs hs' .refl .refl with
    hboth | ⟨r, bs, rest, rest', hc, hc', -, he, he'⟩
  · exact .inl hboth
  have hparse := Pattern.parse_of_read (h.sound.read r hc.mem)
  refine .inr ⟨_, _, r.segments, he, he', rfl, hparse, ?_, ?_⟩
  · intro k hk
    rw [Match.get?_params_ofHit, Match.get?_params_ofHit]
    split
    · rename_i hname
      have hlast : r.segments.getLast? ≠ some .rest := fun hlast => hk ⟨hname, hlast⟩
      rw [hc.accepts.rest_of_getLast?_ne hlast, hc'.accepts.rest_of_getLast?_ne hlast]
    · rfl
  · intro hlast left text
    have hproper : ∀ p ∈ left, Path.Proper p := fun p hp =>
      Path.proper_of_mem hs (List.drop_subset _ _ hp)
    have hne : ∀ p ∈ left, p ≠ [] := fun p hp => (hproper p hp).ne_nil
    have hrest : rest = some (text ++ Path.slashAfter path left) := by
      rw [hc.accepts.rest_of_getLast? hlast, restText_of_ne_nil t method path hne]
    have hrest' : rest' = some (text ++ Path.slashAfter path' left) := by
      rw [hc'.accepts.rest_of_getLast? hlast, restText_of_ne_nil t method path' hne]
    rw [Match.get?_params_ofHit, Match.get?_params_ofHit, if_pos rfl, if_pos rfl, hrest, hrest']
    exact ⟨Text.getLast?_join fun p hp => ⟨(hproper p hp).ne_nil, (hproper p hp).no_slash⟩,
      rfl, rfl⟩

/-- Without the slash at the end, and without idle pieces, the same is found below a page. -/
theorem belowPage_without_slash :
    pages.Reachable ∧ ∃ s, Path.segments belowPage = some s ∧
      Path.segments "page/é/a/b".toList = some s ∧
      ∃ m, pages.lookup .get "page/é/a/b".toList = .matched m ∧ m.route = belowPageMatch.route ∧
        m.params.get? "name".toList = some "é".toList ∧
        m.params.get? Segment.restName = some "a/b".toList := by
  have hs : Path.segments belowPage = some ["page".toList, "é".toList, "a".toList, "b".toList] := by
    decide +kernel
  have hs' : Path.segments "page/é/a/b".toList =
      some ["page".toList, "é".toList, "a".toList, "b".toList] := by
    decide +kernel
  refine ⟨pages_reachable, _, hs, hs', ?_⟩
  rcases answer_by_segments pages_reachable .get hs hs' with
    ⟨hnone, -⟩ | ⟨m, m', ss, hm, hm', hroute, hparse, hkeys, hrest⟩
  · rw [lookup_belowPage] at hnone
    cases hnone
  · rw [lookup_belowPage] at hm
    cases hm
    obtain ⟨hlast, hlength⟩ : ss.getLast? = some .rest ∧ ss.length = 3 := by
      have he : (Pattern.parse belowPageMatch.route.pattern).toOption.any
          (fun ss => ss.getLast? = some .rest ∧ ss.length = 3) = true := by
        decide +kernel
      simpa [hparse, Except.toOption] using he
    have hname : ¬("name".toList = Segment.restName ∧ ss.getLast? = some .rest) := fun he =>
      absurd he.1 (by decide +kernel)
    refine ⟨m', hm', hroute.symm, ?_, ?_⟩
    · rw [← hkeys _ hname]
      decide +kernel
    · obtain ⟨-, -, hpath⟩ := hrest hlast
      rw [hpath, hlength]
      decide +kernel

end Tree

end PathRouting
