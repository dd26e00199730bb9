import PathRouting.Proofs.Lookup.Indexed
import PathRouting.Proofs.Lookup.Selector
import PathRouting.Proofs.Tree.Shape

/-! # Trails

A walk comes to the same whatever is on the trail when it begins.  It finds nothing and leaves the
bindings as they were, or it finds a route and puts behind them what is bound on the line of nodes
that leads down to it.
-/

namespace PathRouting

namespace Node

open Routes

variable {ε : Type}

/-- A line of nodes below `n`, each a child of the one before, and the last with the route. -/
inductive Line : Node ε → List (Node ε) → Route ε → Prop
  | here {n : Node ε} {r : Route ε} (route : n.route = some r) : Line n [] r
  | down {n c : Node ε} {path : List (Node ε)} {r : Route ε} (mem : c ∈ n.children)
      (more : Line c path r) : Line n (c :: path) r

/-- What the nodes of a line bind.  Each takes one of the texts, and those past the last text give
their defaults; a rest marker at the end takes all texts that are left. -/
inductive Binds (v : Sight) : List (Node ε) → List Text → Option Text → List Binding → Prop
  | takes {n : Node ε} {path : List (Node ε)} {s : Segment} {t : Text} {left : List Text}
      {rest : Option Text} {bs bs' : List Binding} (label : n.label = some s)
      (takes : Takes v.registry s t bs) (more : Binds v path left rest bs') :
      Binds v (n :: path) (t :: left) rest (bs ++ bs')
  | rest {n : Node ε} {left : List Text} (label : n.label = some .rest) :
      Binds v [n] left (some (v.restText left)) []
  | defaults {path : List (Node ε)} {bs : List Binding}
      (optional : path.map optional? = bs.map some) : Binds v path [] none bs

/-- A walk comes to the same from any trail: to nothing, with the bindings as they were, or to a hit
with its bindings behind them. -/
inductive Exact (found : Hit ε → List Binding → Prop)
    (walk : Trail → Option (Hit ε) × Trail) : Prop
  | miss (events : List Event)
      (walk_eq : ∀ trail, walk trail = (none, ⟨trail.bindings, trail.events ++ events⟩))
  | hit (hit : Hit ε) (bs : List Binding) (events : List Event) (found : found hit bs)
      (walk_eq : ∀ trail,
        walk trail = (some hit, ⟨trail.bindings ++ bs, trail.events ++ events⟩))

variable {found found' : Hit ε → List Binding → Prop} {walk walk' : Trail → Option (Hit ε) × Trail}

theorem Exact.mono (h : Exact found walk) (hto : ∀ hit bs, found hit bs → found' hit bs)
    (hwalk : ∀ trail, walk' trail = walk trail) : Exact found' walk' := by
  cases h with
  | miss events walk_eq => exact .miss events fun trail => (hwalk trail).trans (walk_eq trail)
  | hit hit bs events hfound walk_eq =>
    exact .hit hit bs events (hto hit bs hfound) fun trail => (hwalk trail).trans (walk_eq trail)

theorem Exact.after (h : Exact found walk) (bs : List Binding) :
    Exact (fun hit all => ∃ bs', all = bs ++ bs' ∧ found hit bs') fun trail =>
      orCutBack trail.bindings.length (walk { trail with bindings := trail.bindings ++ bs }) := by
  cases h with
  | miss events walk_eq =>
    refine .miss events fun trail => ?_
    simp [walk_eq, orCutBack, Trail.cutBack]
  | hit hit bs' events hfound walk_eq =>
    refine .hit hit (bs ++ bs') events ⟨bs', rfl, hfound⟩ fun trail => ?_
    simp [walk_eq, orCutBack]

theorem takeRest_exact {n : Node ε} (v : Sight) (left : List Text) (hl : n.label = some .rest) :
    Exact (fun hit bs => Line n [] hit.route ∧ Binds v [n] left hit.rest bs)
      fun trail => (takeRest v n.route left, trail) := by
  cases hr : n.route with
  | some r =>
    refine .hit ⟨r, some (v.restText left)⟩ [] [] ⟨.here hr, .rest hl⟩ fun trail => ?_
    simp [takeRest, Sight.restText]
  | none => exact .miss [] fun trail => by simp [takeRest]

variable [Endpoint ε] {rs : List (Route ε)} {v : Sight} {p walked : List Segment}
  {left : List Text} {n : Node ε}

/-- Children are tried one after the other, each from the bindings that the first was tried from. -/
theorem firstHit_exact {cs : List (Node ε)} {found : Node ε → Hit ε → List Binding → Prop}
    (hcs : ∀ c ∈ cs, Exact (found c) (descend v c left)) :
    Exact (fun hit bs => ∃ c ∈ cs, found c hit bs) (firstHit v cs left) := by
  induction cs with
  | nil => exact .miss [] fun trail => by simp [firstHit]
  | cons c cs ih =>
    obtain ⟨hc, hcs⟩ := List.forall_mem_cons.1 hcs
    cases hc with
    | hit hit bs events hfound walk_eq =>
      refine .hit hit bs events ⟨c, List.mem_cons_self, hfound⟩ fun trail => ?_
      rw [firstHit, walk_eq]
    | miss events walk_eq =>
      have hfirst (trail : Trail) : firstHit v (c :: cs) left trail =
          firstHit v cs left ⟨trail.bindings, trail.events ++ events⟩ := by
        rw [firstHit, walk_eq]
      cases ih hcs with
      | miss events' walk_eq' =>
        refine .miss (events ++ events') fun trail => ?_
        rw [hfirst, walk_eq', List.append_assoc]
      | hit hit bs events' hfound walk_eq' =>
        obtain ⟨c', hc', hfound⟩ := hfound
        refine .hit hit bs (events ++ events') ⟨c', List.mem_cons_of_mem _ hc', hfound⟩
          fun trail => ?_
        rw [hfirst, walk_eq', List.append_assoc]

/-- The next default has a route, which answers if its endpoint exposes what the selector got. -/
theorem fallBack_exact_of_route {c : Node ε} {b : Binding} {r : Route ε} (v : Sight)
    (done : List Binding) (hc : n.children = [c]) (ho : c.optional? = some b)
    (hr : c.route = some r) :
    Exact (fun hit all => hit = ⟨r, none⟩ ∧ all = done ++ [b])
      fun trail => fallBack v trail.bindings.length n
        { trail with bindings := trail.bindings ++ done } := by
  -- what the selector gets since the mark does not depend on what was bound before
  have hexposes (trail : Trail) : exposes v r trail.bindings.length
      (trail.bindings ++ (done ++ [b])) = true ↔ Exposes v r (done ++ [b]) :=
    exposes_iff
  by_cases hex : Exposes v r (done ++ [b])
  · refine .hit ⟨r, none⟩ (done ++ [b]) [] ⟨rfl, rfl⟩ fun trail => ?_
    simp [fallBack_of_one hc, ho, hr, Trail.bind, (hexposes trail).2 hex]
  · refine .miss [.selectorNotExposed (Endpoint.name r.endpoint) r.pattern v.method.token]
      fun trail => ?_
    simp [fallBack_of_one hc, ho, hr, Trail.bind, Trail.report, Trail.cutBack,
      mt (hexposes trail).1 hex]

theorem Grown.fallBack_exact (h : Grown rs p n) (v : Sight) (done : List Binding) :
    Exact (fun hit all => ∃ path bs, path ≠ [] ∧ hit.rest = none ∧ Line n path hit.route ∧
        path.map optional? = bs.map some ∧ all = done ++ bs)
      fun trail => fallBack v trail.bindings.length n
        { trail with bindings := trail.bindings ++ done } := by
  induction h generalizing done with
  | @mk p n placed children ih =>
    by_cases hone : ∃ c, n.children = [c]
    · obtain ⟨c, hc⟩ := hone
      have hmem : c ∈ n.children := hc ▸ List.mem_singleton_self c
      cases ho : c.optional? with
      | none => exact .miss [] fun trail => by simp [fallBack_of_one hc, ho, Trail.cutBack]
      | some b =>
        cases hr : c.route with
        | none =>
          refine (ih c hmem (done ++ [b])).mono ?_ fun trail => ?_
          · rintro hit all ⟨path, bs, -, hrest, hline, hoptional, rfl⟩
            refine ⟨c :: path, b :: bs, List.cons_ne_nil _ _, hrest, .down hmem hline, ?_, ?_⟩
            · rw [List.map_cons, List.map_cons, ho, hoptional]
            · rw [List.append_assoc, List.singleton_append]
          · simp [fallBack_of_one hc, ho, hr, Trail.bind]
        | some r =>
          refine (fallBack_exact_of_route v done hc ho hr).mono ?_ fun _ => rfl
          rintro hit all ⟨rfl, rfl⟩
          have hline : Line n [c] r := .down hmem (.here hr)
          exact ⟨[c], [b], List.cons_ne_nil _ _, rfl, hline, by simp [ho], rfl⟩
    · exact .miss [] fun trail => by simp [fallBack_of_not_one hone, Trail.cutBack]

theorem Grown.settle_exact (h : Grown rs p n) (v : Sight) :
    Exact (fun hit bs => ∃ path, Line n path hit.route ∧ Binds v path [] hit.rest bs)
      (settle v n) := by
  cases hr : n.route with
  | some r =>
    refine .hit ⟨r, none⟩ [] [] ⟨[], .here hr, .defaults rfl⟩ fun trail => ?_
    simp [settle, hr]
  | none =>
    cases hc : n.children.find? isRest with
    | some c =>
      have hmem : c ∈ n.children := List.mem_of_find?_eq_some hc
      refine (takeRest_exact v [] (label_of_isRest (List.find?_some hc))).mono ?_ fun trail => ?_
      · rintro hit bs ⟨hline, hbinds⟩
        exact ⟨[c], .down hmem hline, hbinds⟩
      · simp [settle, hr, hc]
    | none =>
      refine (h.fallBack_exact v []).mono ?_ fun trail => ?_
      · rintro hit all ⟨path, bs, -, hrest, hline, hoptional, rfl⟩
        rw [hrest]
        exact ⟨path, hline, .defaults hoptional⟩
      · simp [settle, hr, hc]

theorem Grown.descend_exact (h : Grown rs p n) (v : Sight) (hne : left ≠ []) :
    Exact (fun hit bs => ∃ path, Line n path hit.route ∧ Binds v (n :: path) left hit.rest bs)
      (descend v n left) := by
  induction h generalizing left with
  | @mk p n placed children ih =>
    have hg : Grown rs p n := .mk placed children
    obtain ⟨t, left, rfl⟩ := List.exists_cons_of_ne_nil hne
    cases hreach : reaches n.depth n.height v.length with
    | false => exact .miss [] fun trail => by simp [descend_of_not_reaches hreach]
    | true =>
      cases hl : n.label with
      | none =>
        refine .miss [] fun trail => ?_
        rw [descend_of_reaches hreach]
        simp [enter, hl]
      | some s =>
        by_cases hs : s = .rest
        · subst hs
          refine (takeRest_exact v (t :: left) hl).mono ?_ fun trail => ?_
          · rintro hit bs ⟨hline, hbinds⟩
            exact ⟨[], hline, hbinds⟩
          · rw [descend_of_reaches hreach, enter_of_rest hl]
        by_cases hfit : ∃ bs, Fit.segment v.registry s t [] = (.fits, bs)
        · obtain ⟨bs, hfit⟩ := hfit
          have htakes : Takes v.registry s t bs := Fit.takes_iff.2 hfit
          cases left with
          | nil =>
            refine ((hg.settle_exact v).after bs).mono ?_ fun trail => ?_
            · rintro hit all ⟨bs', rfl, path, hline, hbinds⟩
              exact ⟨path, hline, .takes hl htakes hbinds⟩
            · rw [descend_of_reaches hreach, enter_of_fits hl hs hfit]
              rfl
          | cons t' left =>
            have hfirst := firstHit_exact fun c hc => ih c hc (List.cons_ne_nil t' left)
            refine (hfirst.after bs).mono ?_ fun trail => ?_
            · rintro hit all ⟨bs', rfl, c, hc, path, hline, hbinds⟩
              exact ⟨c :: path, .down hc hline, .takes hl htakes hbinds⟩
            · rw [descend_of_reaches hreach, enter_of_fits hl hs hfit]
              rfl
        · obtain ⟨events, he⟩ := enter_of_misfit hl hs (not_exists.1 hfit)
          refine .miss events fun trail => ?_
          rw [descend_of_reaches hreach, he]

end Node

namespace Tree

open Node

variable {ε : Type} [Endpoint ε] {t : Tree ε}

/-- Whatever is on the trail, a walk comes to the same, and leaves behind what was there either
nothing or the bindings of one line of nodes. -/
theorem walks_exact (h : t.Reachable) {v : Sight} {parts : List Text}
    (hparts : parts.length = v.length) :
    (∀ d n, Below (d + 1) t.root n → n.depth ≤ parts.length →
      let left := parts.drop (n.depth - 1)
      (∀ trail, descendByIndex? v parts n trail = some (descend v n left trail)) ∧
        Exact (fun hit bs => ∃ path, Line n path hit.route ∧ Binds v (n :: path) left hit.rest bs)
          (descend v n left)) ∧
    ∀ d n, Below d t.root n →
      Exact (fun hit bs => ∃ path, Line n path hit.route ∧ Binds v path [] hit.rest bs)
        (settle v n) ∧
      Exact (fun hit bs => ∃ path, path ≠ [] ∧ hit.rest = none ∧ Line n path hit.route ∧
          Binds v path [] none bs)
        fun trail => fallBack v trail.bindings.length n trail := by
  constructor
  · intro d n hn hdepth left
    obtain ⟨q, hlen, hg, -⟩ := h.grown_of_below hn
    have hd : n.depth = d + 1 := hg.placed.depth.trans hlen
    have hleft : left = parts.drop d := by
      change parts.drop (n.depth - 1) = _
      rw [hd, Nat.add_sub_cancel]
    have hin : d < parts.length := by omega
    rw [hleft]
    refine ⟨fun trail => hg.descendByIndex?_eq hparts hd hin, hg.descend_exact v ?_⟩
    exact List.ne_nil_of_length_pos (by rw [List.length_drop]; omega)
  · intro d n hn
    obtain ⟨q, -, hg, -⟩ := h.sound.grown.of_below hn
    refine ⟨hg.settle_exact v, (hg.fallBack_exact v []).mono ?_ fun trail => ?_⟩
    · rintro hit all ⟨path, bs, hne, hrest, hline, hoptional, rfl⟩
      exact ⟨path, hne, hrest, hline, .defaults hoptional⟩
    · rw [List.append_nil]

/-- The second page of a blog without the action, asked for from a trail with bindings on it. -/
theorem secondPage_exact :
    let parts := ["blog".toList, "2".toList]
    let v := blogs.sight .get "/blog/2".toList parts
    blogs.Reachable ∧ parts.length = v.length ∧ ∃ n, Below 1 blogs.root n ∧
      n.depth ≤ parts.length ∧ ∀ trail, ∃ events,
        descend v n parts trail = (some ⟨frontPage.route, none⟩,
          ⟨trail.bindings ++ [("page".toList, "2".toList), ("action".toList, "list".toList)],
            events⟩) := by
  intro parts v
  have hparts : parts.length = v.length := rfl
  obtain ⟨n, hmem, hdepth, hhit, hbindings⟩ : ∃ n ∈ blogs.root.children, n.depth = 1 ∧
      (descend v n parts .start).1 = some ⟨frontPage.route, none⟩ ∧
      (descend v n parts .start).2.bindings =
        [("page".toList, "2".toList), ("action".toList, "list".toList)] := by
    decide +kernel
  have hbelow : Below 1 blogs.root n := .child hmem (.self n)
  have hle : n.depth ≤ parts.length := by rw [hdepth]; decide
  obtain ⟨-, hexact⟩ := (walks_exact blogs_reachable hparts).1 0 n hbelow hle
  rw [hdepth] at hexact
  refine ⟨blogs_reachable, hparts, n, hbelow, hle, fun trail => ?_⟩
  cases hexact with
  | miss events walk_eq =>
    have hnone := congrArg Prod.fst (walk_eq .start)
    rw [show parts.drop (1 - 1) = parts from rfl, hhit] at hnone
    cases hnone
  | hit hit bs events found walk_eq =>
    have hstart : descend v n parts .start = (some hit, ⟨bs, events⟩) := walk_eq .start
    rw [hstart] at hhit hbindings
    obtain rfl : hit = ⟨frontPage.route, none⟩ := Option.some.inj hhit
    obtain rfl : bs = _ := hbindings
    exact ⟨_, walk_eq trail⟩

end Tree

end PathRouting
