import PathRouting.Proofs.Table.Parts
import PathRouting.Proofs.Tree.Batch
import PathRouting.Regex.Match

/-! # When a table is built

A table is built just when its expressions compile, its methods are supported and its routes can
stand in one tree, each compared with each.  The routes of the tree are those of the table, in
order.  Otherwise the first route that cannot stand behind those before it is the one that the
error is about.
-/

namespace PathRouting

/-- Two patterns that cannot stand in one tree: their segments are the same, or they clash. -/
def Pattern.Conflict (pattern pattern' : Text) : Prop :=
  ∃ ss ss', parse pattern = .ok ss ∧ parse pattern' = .ok ss' ∧ (ss = ss' ∨ Clashes ss ss')

namespace Table

variable {t : Table} {before specs : List RouteSpec} {spec : RouteSpec}
  {tree tree' : Tree Controller} {i : Nat} {e : BuildError}

/-- Routes whose controllers are defined, whose patterns can be read, and no two of which are in
conflict. -/
structure Routable (t : Table) (specs : List RouteSpec) : Prop where
  defined : ∀ spec ∈ specs, ∃ c, t.controllers.get? spec.controller = some c
  read : ∀ spec ∈ specs, ∃ ss, Pattern.parse spec.pattern = .ok ss
  apart : specs.Pairwise fun spec spec' => ¬Pattern.Conflict spec.pattern spec'.pattern

/-- The controller of a route is unknown, its pattern cannot be read, or it is in conflict with a
route before it. -/
def Barred (t : Table) (before : List RouteSpec) (spec : RouteSpec) : Prop :=
  t.controllers.get? spec.controller = none ∨ (¬∃ ss, Pattern.parse spec.pattern = .ok ss) ∨
    ∃ other ∈ before, Pattern.Conflict other.pattern spec.pattern

/-- The route that is registered for one of the table. -/
def Leads (t : Table) (spec : RouteSpec) (r : Route Controller) : Prop :=
  r.pattern = spec.pattern ∧ ∃ c, t.controllers.get? spec.controller = some c ∧
    r.endpoint = c.controller spec.controller

/-- The error is about the route with number `i`. -/
inductive Stops (t : Table) (i : Nat) (spec : RouteSpec) : BuildError → Prop
  | unknown (none : t.controllers.get? spec.controller = none) :
      Stops t i spec (.unknownController i spec)
  | rejected {c : ControllerSpec} (some : t.controllers.get? spec.controller = some c)
      (fault : Fault) : Stops t i spec (.rejected i spec.controller ⟨spec.pattern, fault⟩)

theorem Stops.message (h : t.Stops i spec e) :
    "Route #".toList ++ Text.ofNat i ++ [' '] <+: e.message := by
  have hquote : " '".toList = [' '] ++ ['\''] := by decide +kernel
  have harrow : " -> ".toList = [' '] ++ ['-', '>', ' '] := by decide +kernel
  unfold BuildError.message
  -- a text that is no variable would be computed by each rewriting
  generalize "Route #".toList = route
  cases h with
  | unknown =>
    simp only [hquote, List.append_assoc]
    simp only [← List.append_assoc route, ← List.append_assoc (route ++ _)]
    exact List.prefix_append _ _
  | rejected _ fault =>
    simp only [harrow, List.append_assoc]
    simp only [← List.append_assoc route, ← List.append_assoc (route ++ _)]
    exact List.prefix_append _ _

theorem not_barred : ¬t.Barred before spec ↔
    (∃ c, t.controllers.get? spec.controller = some c) ∧
      (∃ ss, Pattern.parse spec.pattern = .ok ss) ∧
      ∀ other ∈ before, ¬Pattern.Conflict other.pattern spec.pattern := by
  rw [Barred, not_or, not_or, not_not, ← Ne, Option.ne_none_iff_exists']
  simp only [not_exists, not_and]

theorem routable_concat :
    t.Routable (specs ++ [spec]) ↔ t.Routable specs ∧ ¬t.Barred specs spec := by
  rw [not_barred]
  constructor
  · rintro ⟨hdefined, hread, hapart⟩
    obtain ⟨hdefined, hknown⟩ := List.forall_mem_append.1 hdefined
    obtain ⟨hread, hgood⟩ := List.forall_mem_append.1 hread
    obtain ⟨hapart, -, hlast⟩ := List.pairwise_append.1 hapart
    have hspec : spec ∈ [spec] := List.mem_singleton_self spec
    refine ⟨⟨hdefined, hread, hapart⟩, hknown spec hspec, hgood spec hspec, ?_⟩
    intro other hother
    exact hlast other hother spec hspec
  · rintro ⟨⟨hdefined, hread, hapart⟩, hknown, hgood, hlast⟩
    constructor
    · exact List.forall_mem_append.2 ⟨hdefined, List.forall_mem_singleton.2 hknown⟩
    · exact List.forall_mem_append.2 ⟨hread, List.forall_mem_singleton.2 hgood⟩
    · refine List.pairwise_append.2 ⟨hapart, List.pairwise_singleton _ _, ?_⟩
      intro other hother
      exact List.forall_mem_singleton.2 (hlast other hother)

theorem Routable.of_append {more : List RouteSpec} (h : t.Routable (specs ++ more)) :
    t.Routable specs where
  defined s hs := h.defined s (List.mem_append_left _ hs)
  read s hs := h.read s (List.mem_append_left _ hs)
  apart := (List.pairwise_append.1 h.apart).1

theorem Routable.free (h : t.Routable specs) (hi : specs[i]? = some spec) :
    ¬t.Barred (specs.take i) spec := by
  have hsplit : specs.take i ++ [spec] ++ specs.drop (i + 1) = specs := by
    rw [← Option.toList_some, ← hi, ← List.take_add_one, List.take_append_drop]
  rw [← hsplit] at h
  exact (routable_concat.1 h.of_append).2

/-! ## One route after the other -/

/-- The tree after some routes of the table. -/
structure Reached (t : Table) (specs : List RouteSpec) (tree : Tree Controller) : Prop where
  reachable : tree.Reachable
  routable : t.Routable specs
  leads : List.Forall₂ t.Leads specs tree.routes

theorem Reached.exists_route (h : t.Reached specs tree) (hs : spec ∈ specs) :
    ∃ r ∈ tree.routes, t.Leads spec r := by
  obtain ⟨i, hi, rfl⟩ := List.getElem_of_mem hs
  have hi' : i < tree.routes.length := h.leads.length_eq ▸ hi
  exact ⟨tree.routes[i], List.getElem_mem hi', h.leads.get hi hi'⟩

theorem Reached.exists_spec {r : Route Controller} (h : t.Reached specs tree)
    (hr : r ∈ tree.routes) : ∃ spec ∈ specs, t.Leads spec r := by
  obtain ⟨i, hi, rfl⟩ := List.getElem_of_mem hr
  have hi' : i < specs.length := h.leads.length_eq ▸ hi
  exact ⟨specs[i], List.getElem_mem hi', h.leads.get hi' hi⟩

theorem conflict_iff {r r' : Route Controller}
    (hr : Pattern.read r.pattern = .ok r.segments)
    (hr' : Pattern.read r'.pattern = .ok r'.segments) :
    Pattern.Conflict r.pattern r'.pattern ↔ ¬Routes.Compatible r r' := by
  rw [Pattern.Conflict, Pattern.parse_of_read hr, Pattern.parse_of_read hr', Routes.Compatible,
    not_and_or, not_not, not_not]
  constructor
  · rintro ⟨ss, ss', hss, hss', hor⟩
    cases hss
    cases hss'
    exact hor
  · exact fun hor => ⟨_, _, rfl, rfl, hor⟩

/-- A route of the table can stand in the tree just when it is not barred. -/
theorem Reached.admissible_iff {r : Route Controller} (h : t.Reached before tree)
    (hr : t.Leads spec r) :
    Routes.Admissible (tree.routes ++ [r]) ↔ ¬t.Barred before spec := by
  obtain ⟨hpattern, c, hc, -⟩ := hr
  have ha := h.reachable.admissible
  rw [Routes.admissible_concat, not_barred, ← hpattern]
  constructor
  · rintro ⟨-, hread, hcompatible⟩
    refine ⟨⟨c, hc⟩, ⟨_, Pattern.parse_of_read hread⟩, ?_⟩
    intro other hother hconflict
    obtain ⟨r', hr', hsame, -⟩ := h.exists_route hother
    rw [← hsame, conflict_iff (ha.read r' hr') hread] at hconflict
    exact hconflict (hcompatible r' hr')
  · rintro ⟨-, ⟨ss, hss⟩, hapart⟩
    have hread : Pattern.read r.pattern = .ok r.segments := by
      have hread := Pattern.parse_eq_ok.1 hss
      rw [hread, Route.segments_eq hread]
    refine ⟨ha, hread, ?_⟩
    intro r' hr'
    obtain ⟨other, hother, hsame, -⟩ := h.exists_spec hr'
    have hno := hapart other hother
    rw [← hsame, conflict_iff (ha.read r' hr') hread, not_not] at hno
    exact hno

theorem Reached.concat {r : Route Controller} (h : t.Reached before tree) (hr : t.Leads spec r)
    (hadd : tree.add r.pattern r.endpoint = .ok tree') : t.Reached (before ++ [spec]) tree' := by
  have hreachable := h.reachable.add hadd
  obtain ⟨root, ss, rfl, -, -⟩ := Tree.add_eq_ok hadd
  have hfree := (h.admissible_iff hr).1 hreachable.admissible
  exact ⟨hreachable, routable_concat.2 ⟨h.routable, hfree⟩,
    List.rel_append h.leads (.cons hr .nil)⟩

theorem Reached.barred_of_add {r : Route Controller} {rejection : Rejection}
    (h : t.Reached before tree) (hr : t.Leads spec r)
    (hadd : tree.add r.pattern r.endpoint = .error rejection) : t.Barred before spec := by
  by_contra hfree
  obtain ⟨tree', hadd'⟩ := h.reachable.exists_add ((h.admissible_iff hr).2 hfree)
  rw [hadd] at hadd'
  cases hadd'

variable {controllers : Dictionary Controller} {c : Controller}

theorem addRoutes_of_add (hc : controllers.get? spec.controller = some c)
    (hadd : tree.add spec.pattern c = .ok tree') :
    (addRoutes controllers i (spec :: specs) tree).value =
      (addRoutes controllers (i + 1) specs tree').value := by
  simp only [addRoutes, hc, Tree.register, hadd]
  rfl

theorem addRoutes_of_rejected {rejection : Rejection}
    (hc : controllers.get? spec.controller = some c)
    (hadd : tree.add spec.pattern c = .error rejection) :
    (addRoutes controllers i (spec :: specs) tree).value =
      .error (.rejected i spec.controller rejection) := by
  simp only [addRoutes, hc, Tree.register, hadd]
  rfl

/-- How registering all routes of the table ends. -/
inductive Ends (t : Table) (specs : List RouteSpec) : Except BuildError (Tree Controller) → Prop
  | reached {tree : Tree Controller} (h : t.Reached specs tree) : Ends t specs (.ok tree)
  | stopped {front back : List RouteSpec} {spec : RouteSpec} {e : BuildError}
      (split : specs = front ++ spec :: back) (routable : t.Routable front)
      (barred : t.Barred front spec) (stops : t.Stops front.length spec e) :
      Ends t specs (.error e)

/-- With some routes registered, the others are as well, up to the first that is barred. -/
theorem Reached.addRoutes (h : t.Reached before tree) :
    t.Ends (before ++ specs) (addRoutes t.endpoints before.length specs tree).value := by
  induction specs generalizing before tree with
  | nil =>
    rw [List.append_nil]
    exact .reached h
  | cons spec specs ih =>
    have hget : t.endpoints.get? spec.controller =
        (t.controllers.get? spec.controller).map (·.controller spec.controller) :=
      Dictionary.get?_rebuild ..
    cases hc : t.controllers.get? spec.controller with
    | none =>
      rw [hc] at hget
      rw [Table.addRoutes, hget]
      exact .stopped rfl h.routable (.inl hc) (.unknown hc)
    | some c =>
      rw [hc] at hget
      let r : Route Controller := ⟨spec.pattern, c.controller spec.controller⟩
      have hr : t.Leads spec r := ⟨rfl, c, hc, rfl⟩
      cases hadd : tree.add r.pattern r.endpoint with
      | ok tree' =>
        have hends := ih (h.concat hr hadd)
        rw [List.append_assoc, List.length_append] at hends
        rw [addRoutes_of_add hget hadd]
        exact hends
      | error rejection =>
        obtain ⟨pattern, fault⟩ := rejection
        obtain rfl : pattern = spec.pattern := Tree.pattern_of_add_eq_error hadd
        rw [addRoutes_of_rejected hget hadd]
        exact .stopped rfl h.routable (h.barred_of_add hr hadd) (.rejected hc fault)

theorem equipped_addRoutes (h : (addRoutes controllers i specs tree).value = .ok tree') :
    tree'.registry = tree.registry ∧ tree'.selector = tree.selector := by
  induction specs generalizing tree i with
  | nil =>
    cases h
    exact ⟨rfl, rfl⟩
  | cons spec specs ih =>
    cases hc : controllers.get? spec.controller with
    | none =>
      rw [addRoutes, hc] at h
      cases h
    | some c =>
      cases hadd : tree.add spec.pattern c with
      | ok next =>
        rw [addRoutes_of_add hc hadd] at h
        obtain ⟨root, ss, rfl, -, -⟩ := Tree.add_eq_ok hadd
        have hmore := ih h
        exact hmore
      | error rejection =>
        rw [addRoutes_of_rejected hc hadd] at h
        cases h

/-! ## The whole table -/

theorem reached_empty (registry : Registry) (selector : Text) :
    t.Reached [] (.empty registry selector) where
  reachable := .empty registry selector
  routable := ⟨nofun, nofun, .nil⟩
  leads := .nil

section

variable [Engine]

theorem ends_build (hvalidators : t.ExpressionsCompile) (hmethods : t.MethodsSupported)
    (selector : Option Text) : t.Ends t.routes (t.build selector) := by
  obtain ⟨registry, hregistry⟩ := exists_addValidators.2 hvalidators
  rw [build, buildLogged, hregistry, addControllers_of_table.2 ⟨hmethods, rfl⟩]
  exact (reached_empty registry _).addRoutes

/-- What a tree is built with, before its routes. -/
structure Equipped (t : Table) (selector : Option Text) (tree : Tree Controller) : Prop where
  compiled : t.ExpressionsCompile
  supported : t.MethodsSupported
  validators : ∀ name, tree.registry.get? name = t.validator? name
  selector : tree.selector = (selector.or t.selector).getD "action".toList

theorem equipped_of_build {selector : Option Text} (h : t.build selector = .ok tree) :
    t.Equipped selector tree := by
  rw [build, buildLogged] at h
  cases hvalidators : addValidators t.validators.entries .builtIn with
  | error e =>
    rw [hvalidators] at h
    cases h
  | ok registry =>
    rw [hvalidators] at h
    cases hcontrollers : addControllers t.controllers.entries ∅ with
    | error e =>
      rw [hcontrollers] at h
      cases h
    | ok controllers =>
      rw [hcontrollers] at h
      obtain ⟨hregistry, hselector⟩ := equipped_addRoutes h
      constructor
      · exact exists_addValidators.1 ⟨registry, hvalidators⟩
      · exact (addControllers_of_table.1 hcontrollers).1
      · intro name
        rw [hregistry]
        exact validator?_of_addValidators hvalidators name
      · exact hselector

theorem reached_of_build {selector : Option Text} (h : t.build selector = .ok tree) :
    t.Reached t.routes tree := by
  have hequipped := equipped_of_build h
  have hends := ends_build hequipped.compiled hequipped.supported selector
  rw [h] at hends
  obtain ⟨hreached⟩ := hends
  exact hreached

/-- A table is built just when all its parts are good and its routes can stand together.  What is
built has the validators and the routes of the table, and what stops it is the first bad route. -/
theorem build_by_parts (t : Table) (selector : Option Text) :
    ((∃ tree, t.build selector = .ok tree) ↔
      t.ExpressionsCompile ∧ t.MethodsSupported ∧ t.Routable t.routes) ∧
    (∀ tree, t.build selector = .ok tree → List.Forall₂ t.Leads t.routes tree.routes ∧
      (∀ name, tree.registry.get? name = t.validator? name) ∧
      tree.selector = (selector.or t.selector).getD "action".toList) ∧
    (t.ExpressionsCompile → t.MethodsSupported → ∀ e, t.build selector = .error e →
      ∃ i spec, t.routes[i]? = some spec ∧ t.Barred (t.routes.take i) spec ∧
        (∀ j < i, ∀ other, t.routes[j]? = some other → ¬t.Barred (t.routes.take j) other) ∧
        t.Stops i spec e ∧ "Route #".toList ++ Text.ofNat i ++ [' '] <+: e.message) := by
  refine ⟨⟨?_, ?_⟩, fun tree htree => ?_, fun hvalidators hmethods e he => ?_⟩
  · rintro ⟨tree, htree⟩
    have hequipped := equipped_of_build htree
    exact ⟨hequipped.compiled, hequipped.supported, (reached_of_build htree).routable⟩
  · rintro ⟨hvalidators, hmethods, hroutable⟩
    have hends := ends_build hvalidators hmethods selector
    cases hbuild : t.build selector with
    | ok tree => exact ⟨tree, rfl⟩
    | error e =>
      rw [hbuild] at hends
      obtain _ | ⟨hsplit, -, hbarred, -⟩ := hends
      rw [hsplit, List.append_cons] at hroutable
      exact absurd hbarred (routable_concat.1 hroutable.of_append).2
  · have hequipped := equipped_of_build htree
    exact ⟨(reached_of_build htree).leads, hequipped.validators, hequipped.selector⟩
  · have hends := ends_build hvalidators hmethods selector
    rw [he] at hends
    cases hends with
    | @stopped front back spec _ hsplit hroutable hbarred hstops =>
      rw [hsplit]
      refine ⟨front.length, spec, by simp, by simpa using hbarred, fun j hj other hother => ?_,
        hstops, hstops.message⟩
      rw [List.getElem?_append_left hj] at hother
      rw [List.take_append_of_le_length (Nat.le_of_lt hj)]
      exact hroutable.free hother

end

/-- One page registered twice. -/
def doubled : Table where
  selector := none
  validators := .ofList [("slug".toList, "[a-z]+".toList)]
  controllers := .ofList [("blog".toList, ⟨.ofList [("list".toList, ["get".toList])]⟩)]
  routes := [⟨"/posts".toList, "blog".toList⟩, ⟨"//posts/".toList, "blog".toList⟩]

theorem doubled_stopped :
    doubled.ExpressionsCompile ∧ doubled.MethodsSupported ∧
      ∃ e, doubled.build none = .error e ∧ "Route #1 ".toList <+: e.message := by
  have hvalidators : doubled.ExpressionsCompile := by
    unfold ExpressionsCompile
    decide +kernel
  have hmethods : doubled.MethodsSupported := by
    unfold MethodsSupported ControllerSpec.MethodsSupported Method.IsName
    decide +kernel
  have hposts : Pattern.parse "/posts".toList = .ok [.plain "posts".toList] := by decide +kernel
  have hposts' : Pattern.parse "//posts/".toList = .ok [.plain "posts".toList] := by decide +kernel
  obtain ⟨hbuilt, -, hstopped⟩ := build_by_parts doubled none
  refine ⟨hvalidators, hmethods, ?_⟩
  cases hbuild : doubled.build none with
  | ok tree =>
    have hroutable := (hbuilt.1 ⟨tree, hbuild⟩).2.2
    exact absurd ⟨_, _, hposts, hposts', .inl rfl⟩ (List.pairwise_pair.1 hroutable.apart)
  | error e =>
    obtain ⟨i, spec, hi, hbarred, -, -, hmessage⟩ := hstopped hvalidators hmethods e hbuild
    have hlength : i < 2 := (List.getElem?_eq_some_iff.1 hi).1
    refine ⟨e, rfl, ?_⟩
    obtain rfl | rfl : i = 0 ∨ i = 1 := by omega
    · -- the first of the routes can stand alone
      cases hi
      obtain hnone | hbad | ⟨other, hother, -⟩ := hbarred
      · exact absurd hnone (by decide +kernel)
      · exact absurd ⟨_, hposts⟩ hbad
      · cases hother
    · have hone : "Route #1 ".toList = "Route #".toList ++ Text.ofNat 1 ++ [' '] := by
        decide +kernel
      rwa [hone]

end Table

end PathRouting
