import PathRouting.Proofs.Tree.Clash
import PathRouting.Proofs.Tree.Reachable

/-! # The verdict on a pattern

Registering looks only at the nodes along a pattern, down to the place where it leaves the tree.
As no two registered routes ever clash, what is seen there settles how the pattern stands to each of
them.
-/

namespace PathRouting

namespace Node

open Routes

variable {ε : Type} {rs : List (Route ε)} {q : List Segment} {n : Node ε} {s : Segment}
  {ss : List Segment}

theorem Placed.raw_rival (h : Placed rs q n) :
    (if s.isRest then n.children.head? else n.children.find? isRest).map Node.raw =
      (rival? rs q s).map Segment.raw := by
  cases s with
  | rest =>
    have hraws := congrArg List.head? h.raws
    simpa [rival?, Segment.isRest] using hraws
  | _ =>
    rcases h.find?_isRest with ⟨c, r, hc, hm, hl, -⟩ | ⟨hc, hrest⟩
    · simp [rival?, Segment.isRest, hc, h.mem_nexts hm hl, raw_of_label hl]
    · simp [rival?, Segment.isRest, hc, hrest]

theorem Placed.fault?_of_new (h : Placed rs q n) (hc : n.child? s.raw = none) :
    n.fault? s ss = (rival? rs q s).map fun rival => .restConflict rival.raw := by
  have hrival := congrArg (Option.map Fault.restConflict) (h.raw_rival (s := s))
  rw [Option.map_map, Option.map_map] at hrival
  rw [Node.fault?.eq_def, hc]
  exact hrival

theorem Grown.fault?_eq (h : Grown rs q n)
    (hof : ∀ t ∈ s :: ss, Segment.ofRaw? t.raw = some t)
    (hlast : ∀ front back, s :: ss = front ++ .rest :: back → back = []) :
    n.fault? s ss = Routes.fault? rs q (s :: ss) := by
  induction ss generalizing q n s with
  | nil =>
    rw [Routes.fault?]
    cases hc : n.child? s.raw with
    | none => rw [h.placed.fault?_of_new hc, if_neg (h.placed.child?_eq_none hc)]
    | some c =>
      obtain ⟨hm, hl, hg⟩ := h.of_child? (hof s (by simp)) hc
      rw [if_pos (h.placed.mem_nexts hm hl), Routes.fault?, ← hg.placed.route, Node.fault?.eq_def,
        hc]
  | cons t ss ih =>
    rw [Routes.fault?]
    cases hc : n.child? s.raw with
    | none => rw [h.placed.fault?_of_new hc, if_neg (h.placed.child?_eq_none hc)]
    | some c =>
      obtain ⟨hm, hl, hg⟩ := h.of_child? (hof s (by simp)) hc
      have hc' : c.isRest = false := by
        -- a rest marker has nothing after it
        cases hs : s with
        | rest => simpa using hlast [] (t :: ss) (by rw [hs]; rfl)
        | _ => simp [Node.isRest, hl, hs, Segment.isRest]
      rw [if_pos (h.placed.mem_nexts hm hl), Node.fault?.eq_def, hc]
      simp only [hc', Bool.false_eq_true, if_false]
      apply ih hg (List.forall_mem_cons.1 hof).2
      intro front back he
      exact hlast (s :: front) back (by rw [he]; rfl)

end Node

namespace Routes

variable {ε : Type} {rs : List (Route ε)} {q ss : List Segment}

theorem fault?_ne_restNotLast : fault? rs q ss ≠ some .restNotLast := by
  induction ss generalizing q with
  | nil => rw [fault?]; split <;> simp
  | cons s ss ih =>
    rw [fault?]
    split
    · exact ih
    · simp

end Routes

namespace Tree

open Routes

variable {ε : Type} {t t' : Tree ε} {pattern : Text} {endpoint : ε} {ss : List Segment}

theorem Sound.root_fault? (ht : t.Sound) {s : Segment}
    (hread : Pattern.read pattern = .ok (s :: ss)) :
    t.root.fault? s ss = Routes.fault? t.routes [] (s :: ss) := by
  obtain ⟨-, -, hregular⟩ := Pattern.read_eq_ok hread
  exact ht.grown.fault?_eq hregular.ofRaw hregular.rest_last

theorem add_of_unread {rejection : Rejection} (hread : Pattern.parse pattern = .error rejection) :
    t.add pattern endpoint = .error rejection := by
  rw [Tree.add, hread]

theorem Sound.add_of_fault (ht : t.Sound) (endpoint : ε) {fault : Fault}
    (hread : Pattern.read pattern = .ok ss)
    (hf : Routes.fault? t.routes [] ss = some fault) :
    t.add pattern endpoint = .error ⟨pattern, fault⟩ := by
  rw [Tree.add, Pattern.parse_of_read hread]
  cases ss with
  | nil =>
    rw [Routes.fault?, ← ht.grown.placed.route] at hf
    split at hf
    · cases hf
      simp [*]
    · cases hf
  | cons s ss => simp [ht.root_fault? hread, hf]

theorem Sound.add_of_no_fault (ht : t.Sound) (endpoint : ε)
    (hread : Pattern.read pattern = .ok ss)
    (hf : Routes.fault? t.routes [] ss = none) :
    ∃ root, t.add pattern endpoint =
      .ok { t with root, routes := t.routes ++ [⟨pattern, endpoint⟩] } := by
  rw [Tree.add, Pattern.parse_of_read hread]
  cases ss with
  | nil =>
    rw [Routes.fault?, ← ht.grown.placed.route] at hf
    split at hf
    · cases hf
    · rename_i hn
      exact ⟨t.root.withRoute ⟨pattern, endpoint⟩, by simp [hn]⟩
  | cons s ss =>
    exact ⟨t.root.graft ⟨pattern, endpoint⟩ 1 s ss, by simp [ht.root_fault? hread, hf]⟩

theorem Sound.fault?_of_add (ht : t.Sound) (hread : Pattern.read pattern = .ok ss)
    (h : t.add pattern endpoint = .ok t') : Routes.fault? t.routes [] ss = none := by
  cases hf : Routes.fault? t.routes [] ss with
  | none => rfl
  | some fault => simp [ht.add_of_fault endpoint hread hf] at h

theorem Sound.clear_add (ht : t.Sound) (hclear : Clear t.routes)
    (h : t.add pattern endpoint = .ok t') : Clear t'.routes := by
  obtain ⟨root, ss, rfl, hread, -⟩ := add_eq_ok h
  have hjudged : Judged t.routes ss (Routes.fault? t.routes [] ss) := hclear.judged (.inl rfl)
  rw [ht.fault?_of_add hread h] at hjudged
  obtain _ | _ | ⟨-, hapart⟩ := hjudged
  let e : Route ε := ⟨pattern, endpoint⟩
  have he : e.segments = ss := Route.segments_eq hread
  intro r hr r' hr'
  rcases List.mem_append.1 hr with hr | hr <;> rcases List.mem_append.1 hr' with hr' | hr'
  · exact hclear r hr r' hr'
  · rw [List.mem_singleton.1 hr', he]
    exact fun hc => hapart ⟨r, hr, hc⟩
  · rw [List.mem_singleton.1 hr, he]
    exact fun hc => hapart ⟨r', hr', hc.symm⟩
  · rw [List.mem_singleton.1 hr, List.mem_singleton.1 hr']
    exact Clashes.irrefl

/-- Two routes of a tree never clash. -/
theorem Reachable.clear (h : t.Reachable) : Clear t.routes := by
  induction h with
  | empty => exact nofun
  | attempt ht r ih =>
    unfold Tree.attempt
    split
    · rename_i hadd
      exact ht.sound.clear_add ih hadd
    · exact ih
  | equip _ _ _ ih => exact ih

theorem pattern_of_add_eq_error {rejection : Rejection}
    (h : t.add pattern endpoint = .error rejection) : rejection.pattern = pattern := by
  unfold Tree.add at h
  split at h
  · rename_i hparse
    cases h
    exact Pattern.pattern_of_parse_eq_error hparse
  all_goals
    split at h <;> cases h
    rfl

/-- What becomes of a pattern is settled by comparing it with the registered ones, each for
itself. -/
theorem add_by_comparison (h : t.Reachable) (pattern : Text) (endpoint : ε) :
    (∀ rejection, Pattern.parse pattern = .error rejection →
      t.add pattern endpoint = .error rejection) ∧
    (∀ ss, Pattern.parse pattern = .ok ss →
      (t.add pattern endpoint = .error ⟨pattern, .taken⟩ ↔ ∃ r ∈ t.routes, r.segments = ss) ∧
      ((∃ rival, t.add pattern endpoint = .error ⟨pattern, .restConflict rival⟩) ↔
        ∃ r ∈ t.routes, Clashes r.segments ss) ∧
      (∀ rival, t.add pattern endpoint = .error ⟨pattern, .restConflict rival⟩ →
        ∀ r ∈ t.routes, ∀ q s s', Clash q s s' r.segments ss →
          if s' = .rest then (t.routes.findSome? (Route.next? q)).map Segment.raw = some rival
          else rival = Segment.restText) ∧
      ((∃ t', t.add pattern endpoint = .ok t' ∧ t'.size = t.size + 1) ↔
        (¬∃ r ∈ t.routes, r.segments = ss) ∧ ¬∃ r ∈ t.routes, Clashes r.segments ss) ∧
      ¬((∃ r ∈ t.routes, r.segments = ss) ∧ ∃ r ∈ t.routes, Clashes r.segments ss) ∧
      ∀ s ss', ss = s :: ss' → t.root.fault? s ss' ≠ some .restNotLast) ∧
    ∀ rejection, t.add pattern endpoint = .error rejection → rejection.pattern = pattern := by
  refine ⟨fun _ => add_of_unread, fun ss hparse => ?_, fun _ => pattern_of_add_eq_error⟩
  have hread := Pattern.parse_eq_ok.1 hparse
  have hnever : ∀ s ss', ss = s :: ss' → t.root.fault? s ss' ≠ some .restNotLast := by
    rintro s ss' rfl
    rw [h.sound.root_fault? hread]
    exact fault?_ne_restNotLast
  have hjudged : Judged t.routes ss (Routes.fault? t.routes [] ss) := h.clear.judged (.inl rfl)
  cases hf : Routes.fault? t.routes [] ss with
  | none =>
    rw [hf] at hjudged
    obtain ⟨root, hadd⟩ := h.sound.add_of_no_fault endpoint hread hf
    cases hjudged with
    | clear fresh apart =>
      exact ⟨iff_of_false (by simp [hadd]) fresh, iff_of_false (by simp [hadd]) apart,
        by simp [hadd], iff_of_true ⟨_, hadd, by simp [size]⟩ ⟨fresh, apart⟩,
        fun hboth => fresh hboth.1, hnever⟩
  | some fault =>
    rw [hf] at hjudged
    have hadd := h.sound.add_of_fault endpoint hread hf
    cases hjudged with
    | taken same apart =>
      exact ⟨iff_of_true hadd same, iff_of_false (by simp [hadd]) apart, by simp [hadd],
        iff_of_false (by simp [hadd]) fun hnone => hnone.1 same, fun hboth => apart hboth.2, hnever⟩
    | @conflict first fresh clash named =>
      refine ⟨iff_of_false (by simp [hadd]) fresh, iff_of_true ⟨_, hadd⟩ clash, ?_,
        iff_of_false (by simp [hadd]) fun hnone => hnone.2 clash, fun hboth => fresh hboth.1, hnever⟩
      intro rival hrival r hr q s s' hc
      obtain rfl : first.raw = rival := by simpa [hadd] using hrival
      have hnamed := rival_of_eq_some (named r hr q s s' hc)
      by_cases hs : s' = .rest
      · rw [if_pos hs] at hnamed ⊢
        rw [hnamed]
        rfl
      · rw [if_neg hs] at hnamed ⊢
        rw [hnamed]
        rfl

/-- Two files and a way to any file by its name. -/
def files : Tree Controller :=
  (empty ∅ usualSelector).attemptAll
    [⟨"/files".toList, .of "all".toList⟩, ⟨"/files/new".toList, .of "new".toList⟩,
      ⟨"/files/<name>".toList, .of "named".toList⟩]

theorem files_reachable : files.Reachable := (Reachable.empty ..).attemptAll _

/-- A rest marker has no place beside other segments, and the first of them is named. -/
theorem rest_rejected_beside_files :
    files.Reachable ∧
      Pattern.parse "files//*pathInfo".toList = .ok [.plain "files".toList, .rest] ∧
      files.add "files//*pathInfo".toList (.of "rest".toList) =
        .error ⟨"files//*pathInfo".toList, .restConflict "new".toList⟩ := by
  have hparse : Pattern.parse "files//*pathInfo".toList = .ok [.plain "files".toList, .rest] := by
    decide +kernel
  let named : Route Controller := ⟨"/files/<name>".toList, .of "named".toList⟩
  have hmem : named ∈ files.routes := by decide +kernel
  have hc : Clash [.plain "files".toList] (.slotted "<name>".toList
      [.slot "name".toList (.of "any".toList)]) .rest named.segments
      [.plain "files".toList, .rest] := by
    constructor <;> decide +kernel
  obtain ⟨-, hclashes, hnamed, -⟩ := (add_by_comparison files_reachable "files//*pathInfo".toList
    (.of "rest".toList)).2.1 _ hparse
  obtain ⟨rival, hadd⟩ := hclashes.2 ⟨named, hmem, _, _, _, hc⟩
  have hfirst := hnamed rival hadd named hmem _ _ _ hc
  have hnew : (files.routes.findSome? (Route.next? [.plain "files".toList])).map Segment.raw =
      some "new".toList := by
    decide +kernel
  rw [if_pos rfl, hnew] at hfirst
  rw [hadd, Option.some.inj hfirst]
  exact ⟨files_reachable, hparse, rfl⟩

end Tree

end PathRouting
