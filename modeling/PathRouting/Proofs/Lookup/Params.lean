import PathRouting.Proofs.Dictionary
import PathRouting.Proofs.Lookup.Fill
import PathRouting.Proofs.Lookup.Search

/-! # The parameters of a match

A match binds the names of its own pattern and no others, whatever was tried on the way.  With the
values put in their places, the pattern gives back the path up to the rest marker or the end.
-/

namespace PathRouting

namespace Segment

theorem optional?_eq_some {s : Segment} {b : Text × Text} (h : s.optional? = some b) :
    ∃ raw rule, s = .slotted raw [.slot b.1 rule] ∧ rule.default = some b.2 := by
  unfold optional? at h
  split at h
  · rename_i raw name rule
    obtain ⟨value, hv, rfl⟩ := Option.map_eq_some_iff.1 h
    exact ⟨raw, rule, rfl, hv⟩
  · cases h

theorem names_of_optional? {s : Segment} {b : Text × Text} (h : s.optional? = some b) :
    s.names = [b.1] := by
  obtain ⟨raw, rule, rfl, -⟩ := optional?_eq_some h
  rfl

theorem getLast?_cons_of_ne_rest {s : Segment} {ss : List Segment} (h : s ≠ .rest) :
    (s :: ss).getLast? = some .rest ↔ ss.getLast? = some .rest := by
  cases ss with
  | nil => simp [h]
  | cons s' ss => rw [List.getLast?_cons_cons]

theorem mem_names_of_slots {s : Segment} {slot : Text × Rule} (h : slot ∈ s.slots) :
    slot.1 ∈ s.names := by
  have hs : s ≠ .rest := by
    rintro rfl
    cases h
  rw [names_of_ne_rest hs]
  exact List.mem_map_of_mem h

theorem flatMap_names {ss : List Segment}
    (h : ∀ front back, ss = front ++ .rest :: back → back = []) :
    ss.flatMap names = (ss.flatMap slots).map (·.1) ++
      if ss.getLast? = some .rest then [restName] else [] := by
  induction ss with
  | nil => rfl
  | cons s ss ih =>
    by_cases hs : s = .rest
    · subst hs
      obtain rfl := h [] ss rfl
      rfl
    · have ih := ih fun front back he => h (s :: front) back (by simp [he])
      simp only [List.flatMap_cons, List.map_append, ih, names_of_ne_rest hs,
        getLast?_cons_of_ne_rest hs, List.append_assoc]

end Segment

namespace Pattern

/-- How many segments of a path, of which there are `n`, a pattern takes one by one. -/
def fitted (ss : List Segment) (n : Nat) : Nat :=
  if ss.getLast? = some .rest then ss.length - 1 else min ss.length n

theorem fitted_of_notMem {ss : List Segment} {n : Nat} (h : .rest ∉ ss) :
    fitted ss n = min ss.length n :=
  if_neg fun he => h (List.mem_of_getLast? he)

theorem fitted_rest (front : List Segment) (n : Nat) :
    fitted (front ++ [.rest]) n = front.length := by
  simp [fitted]

end Pattern

namespace Routes

variable {ε : Type} {rs : List (Route ε)} {walked back : List Segment} {bs : List Binding}

theorem TakesAll.value {registry : Registry} {ss : List Segment} {ts : List Text}
    (h : TakesAll registry ss ts bs) {s : Segment} (hs : s ∈ ss) {slot : Text × Rule}
    (hslot : slot ∈ s.slots) : ∃ b ∈ bs, b.1 = slot.1 ∧ b.2 ≠ [] := by
  have hname : slot.1 ∈ ss.flatMap Segment.names :=
    List.mem_flatMap.2 ⟨s, hs, Segment.mem_names_of_slots hslot⟩
  rw [← h.names] at hname
  obtain ⟨b, hb, he⟩ := List.mem_map.1 hname
  exact ⟨b, hb, he, h.ne_nil b hb⟩

theorem Lapses.names (h : Lapses rs walked back bs) :
    bs.map (·.1) = back.flatMap Segment.names := by
  induction h with
  | nil => rfl
  | cons _ _ optional _ ih =>
    rw [List.map_cons, List.flatMap_cons, Segment.names_of_optional? optional, ih]
    rfl

variable [Endpoint ε] {v : Sight} {r : Route ε} {todo : List Segment} {left : List Text}
  {rest : Option Text}

/-- All that a route binds, the rest of the path included. -/
def bound (bs : List Binding) (rest : Option Text) : List Binding :=
  bs ++ rest.toList.map (Segment.restName, ·)

theorem Accepts.names (h : Accepts rs v r walked todo left bs rest) :
    (bound bs rest).map (·.1) = todo.flatMap Segment.names := by
  unfold bound
  cases h with
  | direct takes => simp [takes.names]
  | rest takes free => simp [takes.names]
  | defaults takes ne_nil lapses exposes => simp [takes.names, lapses.names]

theorem Accepts.split (h : Accepts rs v r walked todo left bs rest) :
    ∃ front back taken spare bs₁ bs₂, todo = front ++ back ∧ left = taken ++ spare ∧
      bs = bs₁ ++ bs₂ ∧ TakesAll v.registry front taken bs₁ ∧
      front.length = Pattern.fitted todo left.length ∧
      ((back = [.rest] ∧ rest = some (v.restText spare)) ∨
        (.rest ∉ todo ∧ spare = [] ∧ ∀ s ∈ back, ∃ b ∈ bs₂, s.optional? = some b)) := by
  rcases h.cases with ⟨hn, hlen, takes, -⟩ | ⟨front, taken, spare, rfl, rfl, takes, rfl⟩ |
    ⟨hn, hlen, -, front, back, bs₁, bs₂, rfl, rfl, takes, lapses⟩
  · refine ⟨todo, [], left, [], bs, [], by simp, by simp, by simp, takes, ?_,
      .inr ⟨hn, rfl, nofun⟩⟩
    rw [Pattern.fitted_of_notMem hn, hlen, Nat.min_self]
  · refine ⟨front, [.rest], taken, spare, bs, [], rfl, rfl, by simp, takes, ?_, .inl ⟨rfl, rfl⟩⟩
    rw [Pattern.fitted_rest]
  · refine ⟨front, back, left, [], bs₁, bs₂, rfl, by simp, rfl, takes, ?_,
      .inr ⟨hn, rfl, fun s hs => lapses.optional hs⟩⟩
    rw [Pattern.fitted_of_notMem hn, takes.length_eq, List.length_append]
    omega

theorem Accepts.rest_of_getLast? (h : Accepts rs v r walked todo left bs rest)
    (hlast : todo.getLast? = some .rest) :
    rest = some (v.restText (left.drop (todo.length - 1))) := by
  obtain ⟨front, back, taken, spare, bs₁, bs₂, rfl, rfl, rfl, takes, -, hend⟩ := h.split
  rcases hend with ⟨rfl, rfl⟩ | ⟨hrest, -⟩
  · rw [List.length_append, List.length_singleton, Nat.add_sub_cancel, ← takes.length_eq,
      List.drop_left]
  · exact absurd (List.mem_of_getLast? hlast) hrest

theorem Accepts.rest_of_getLast?_ne (h : Accepts rs v r walked todo left bs rest)
    (hlast : todo.getLast? ≠ some .rest) : rest = none := by
  cases h with
  | direct takes => rfl
  | rest takes free => exact absurd (by simp) hlast
  | defaults takes ne_nil lapses exposes => rfl

end Routes

namespace Match

variable {ε : Type}

theorem params_ofHit (selector : Text) (hit : Hit ε) (bs : List Binding) :
    (ofHit selector hit bs).params = Dictionary.ofList (Routes.bound bs hit.rest) := by
  unfold Routes.bound ofHit
  cases hit.rest with
  | none => simp
  | some text => exact (Dictionary.ofList_concat bs (Segment.restName, text)).symm

theorem get?_params_ofHit (selector : Text) (hit : Hit ε) (bs : List Binding) (k : Text) :
    (ofHit selector hit bs).params.get? k =
      if k = Segment.restName then hit.rest.or ((Dictionary.ofList bs).get? k)
      else (Dictionary.ofList bs).get? k := by
  unfold ofHit
  cases hit.rest with
  | none => simp
  | some text => simp

end Match

namespace Tree

open Routes

variable {ε : Type} [Endpoint ε] {t : Tree ε} {method : Method} {path : Text} {m : Match ε}

theorem Sound.of_matched (ht : t.Sound) (hm : t.lookup method path = .matched m) :
    ∃ s bs rest, Path.segments path = some s ∧
      Accepts t.routes (t.sight method path s) m.route [] m.route.segments s bs rest ∧
      Pattern.parse m.route.pattern = .ok m.route.segments ∧
      m.params = .ofList (bound bs rest) ∧ m.selector = m.params.get? t.selector ∧
      ((bound bs rest).map (·.1)).Nodup := by
  obtain ⟨s, r, bs, rest, hs, hc, rfl⟩ := (lookup_eq_matched ht).1 hm
  refine ⟨s, bs, rest, hs, hc.accepts, Pattern.parse_of_read (ht.read r hc.mem),
    Match.params_ofHit .., rfl, ?_⟩
  rw [hc.accepts.names]
  exact r.regular.names_nodup

/-- The segments of the matched pattern, filled in with the parameters, are those of the path, up to
the rest marker or the end; the rest marker has what is left, and what the path leaves out has its
defaults. -/
theorem matched_rebuilds_path (h : t.Reachable) (hm : t.lookup method path = .matched m) :
    ∃ ss s, Pattern.parse m.route.pattern = .ok ss ∧ Path.segments path = some s ∧
      let c := Pattern.fitted ss s.length
      c ≤ s.length ∧ (ss.take c).map (Segment.fill? m.params) = (s.take c).map some ∧
      (∀ seg ∈ ss.take c, ∀ slot ∈ seg.slots, ∃ value,
        m.params.get? slot.1 = some value ∧ value ≠ []) ∧
      (ss.getLast? = some .rest → m.params.get? Segment.restName =
        some (Text.join '/' (s.drop c) ++
          if path.getLast? = some '/' ∧ Text.join '/' (s.drop c) ≠ [] then ['/'] else [])) ∧
      (ss.getLast? ≠ some .rest → c = s.length ∧ ∀ seg ∈ ss.drop c, ∃ raw name rule value,
        seg = .slotted raw [.slot name rule] ∧ rule.default = some value ∧
        m.params.get? name = some value) := by
  obtain ⟨s, bs, rest, hs, ha, hparse, hparams, -, hnd⟩ := h.sound.of_matched hm
  have hget : ∀ b ∈ bound bs rest, m.params.get? b.1 = some b.2 := by
    intro b hb
    rw [hparams]
    exact Dictionary.get?_ofList_of_mem hnd hb
  refine ⟨m.route.segments, s, hparse, hs, ?_⟩
  obtain ⟨front, back, taken, spare, bs₁, bs₂, hss, rfl, rfl, takes, hc, hend⟩ := ha.split
  have hbs₁ : ∀ b ∈ bs₁, m.params.get? b.1 = some b.2 := fun b hb => hget b (by simp [bound, hb])
  have hbs₂ : ∀ b ∈ bs₂, m.params.get? b.1 = some b.2 := fun b hb => hget b (by simp [bound, hb])
  rw [hss] at hend hc ⊢
  rw [← hc]
  dsimp only
  rw [List.take_left, List.drop_left, ← takes.length_eq, List.take_left, List.drop_left]
  refine ⟨by simp, takes.fill hbs₁, fun seg hseg slot hslot => ?_, fun hlast => ?_,
    fun hlast => ?_⟩
  · obtain ⟨b, hb, he, hne⟩ := takes.value hseg hslot
    exact ⟨b.2, he ▸ hbs₁ b hb, hne⟩
  · rcases hend with ⟨-, rfl⟩ | ⟨hrest, -⟩
    · let text := (t.sight method path (taken ++ spare)).restText spare
      have hmem : (Segment.restName, text) ∈ bound (bs₁ ++ bs₂) (some text) := by simp [bound]
      rw [← restText_sight t method path (taken ++ spare) spare]
      exact hget _ hmem
    · exact absurd (List.mem_of_getLast? hlast) hrest
  · rcases hend with ⟨rfl, -⟩ | ⟨-, rfl, hdefaults⟩
    · exact absurd (by simp) hlast
    · refine ⟨by simp, fun seg hseg => ?_⟩
      obtain ⟨b, hb, ho⟩ := hdefaults seg hseg
      obtain ⟨raw, rule, rfl, hdefault⟩ := Segment.optional?_eq_some ho
      exact ⟨raw, b.1, rule, b.2, rfl, hdefault, hbs₂ b hb⟩

/-- What lies below a page, as it is asked for with a slash at the end. -/
def belowPage : Text := "/page/é//a/./b/".toList

def belowPageMatch : Match Controller :=
  ⟨⟨"/page/<name>/*pathInfo".toList, .of "named".toList⟩,
    .ofList [("name".toList, "é".toList), ("pathInfo".toList, "a/b/".toList)], none⟩

theorem lookup_belowPage : pages.lookup .get belowPage = .matched belowPageMatch := by
  decide +kernel

theorem belowPage_rebuilt :
    pages.Reachable ∧ pages.lookup .get belowPage = .matched belowPageMatch ∧
      ∃ ss s, Pattern.parse belowPageMatch.route.pattern = .ok ss ∧
        Path.segments belowPage = some s ∧
        (ss.take (Pattern.fitted ss s.length)).map (Segment.fill? belowPageMatch.params) =
          (s.take (Pattern.fitted ss s.length)).map some := by
  obtain ⟨ss, s, hparse, hs, -, hfill, -⟩ := matched_rebuilds_path pages_reachable lookup_belowPage
  exact ⟨pages_reachable, lookup_belowPage, ss, s, hparse, hs, hfill⟩

/-- A match has parameters for the names of its own pattern and for no others. -/
theorem matched_names_own (h : t.Reachable) (hm : t.lookup method path = .matched m) :
    ∃ ss, Pattern.parse m.route.pattern = .ok ss ∧
      (∀ k, k ∈ m.params.keys ↔ k ∈ (ss.flatMap Segment.slots).map (·.1) ∨
        k = Segment.restName ∧ ss.getLast? = some .rest) ∧
      m.params.size = (ss.flatMap Segment.slots).length +
        (if ss.getLast? = some .rest then 1 else 0) ∧
      (m.selector.isSome ↔ t.selector ∈ m.params.keys) ∧
      m.selector = m.params.get? t.selector := by
  obtain ⟨s, bs, rest, -, ha, hparse, hparams, hselector, hnd⟩ := h.sound.of_matched hm
  have hkeys := Dictionary.keys_ofList_perm hnd
  rw [← hparams, ha.names] at hkeys
  have hnames := Segment.flatMap_names m.route.regular.rest_last
  refine ⟨m.route.segments, hparse, fun k => ?_, ?_, ?_, hselector⟩
  · rw [hkeys.mem_iff, hnames, List.mem_append]
    split <;> simp [*]
  · have hsize := hkeys.length_eq
    rw [hnames, List.length_append, List.length_map] at hsize
    rw [Dictionary.size, ← List.length_map, ← Dictionary.keys, hsize]
    split <;> rfl
  · rw [hselector, Dictionary.mem_keys]

theorem belowPage_names :
    pages.Reachable ∧ pages.lookup .get belowPage = .matched belowPageMatch ∧
      ∃ ss, Pattern.parse belowPageMatch.route.pattern = .ok ss ∧
        belowPageMatch.params.size = (ss.flatMap Segment.slots).length +
          (if ss.getLast? = some .rest then 1 else 0) := by
  obtain ⟨ss, hparse, -, hsize, -⟩ := matched_names_own pages_reachable lookup_belowPage
  exact ⟨pages_reachable, lookup_belowPage, ss, hparse, hsize⟩

end Tree

end PathRouting
