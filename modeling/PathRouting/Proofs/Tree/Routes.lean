import Mathlib.Data.List.Induction
import PathRouting.Proofs.Pattern.Reading
import PathRouting.Tree.Node

/-! # Lists of routes

What routes, in the order they were registered, say of the segments `q` at which a path may begin:
which segments come next, which route ends there, how far the routes go on, and which of them was
the earliest to begin so.
-/

namespace PathRouting

variable {ε : Type}

namespace Route

def segments (r : Route ε) : List Segment := (Pattern.read r.pattern).toOption.getD []

def raws (r : Route ε) : List Text := r.segments.map Segment.raw

theorem segments_eq {r : Route ε} {ss : List Segment} (h : Pattern.read r.pattern = .ok ss) :
    r.segments = ss := by
  rw [segments, h]
  rfl

theorem length_segments_le (r : Route ε) : r.segments.length ≤ Pattern.mostSegments := by
  unfold segments
  cases h : Pattern.read r.pattern with
  | error fault => exact Nat.zero_le _
  | ok ss => exact (Pattern.read_eq_ok h).2.1

theorem regular (r : Route ε) : Pattern.Regular r.segments := by
  unfold segments
  cases h : Pattern.read r.pattern with
  | error fault => exact ⟨by simp [Except.toOption], by simp [Except.toOption], .nil⟩
  | ok ss => exact (Pattern.read_eq_ok h).2.2

theorem rest_last {r : Route ε} {q more : List Segment} (h : r.segments = q ++ .rest :: more) :
    more = [] :=
  r.regular.rest_last q more h

theorem eq_of_rest_prefix {r : Route ε} {q : List Segment} (h : q ++ [.rest] <+: r.segments) :
    r.segments = q ++ [.rest] := by
  obtain ⟨more, hmore⟩ := h
  rw [List.append_assoc, List.singleton_append] at hmore
  obtain rfl := rest_last hmore.symm
  exact hmore.symm

/-- The segment after `q`. -/
def next? (q : List Segment) (r : Route ε) : Option Segment :=
  if q <+: r.segments then r.segments[q.length]? else none

theorem next?_of_eq {r : Route ε} {q ss : List Segment} {s : Segment}
    (h : r.segments = q ++ s :: ss) : r.next? q = some s := by
  simp [next?, h]

theorem next?_eq_some {r : Route ε} {q : List Segment} {s : Segment} :
    r.next? q = some s ↔ q ++ [s] <+: r.segments := by
  constructor
  · intro h
    unfold next? at h
    split at h
    · rename_i hq
      obtain ⟨ss, hss⟩ := hq
      rw [← hss, List.getElem?_append_right (Nat.le_refl _), Nat.sub_self] at h
      cases ss with
      | nil => simp at h
      | cons t ss =>
        obtain rfl : t = s := by simpa using h
        exact ⟨ss, by simpa using hss⟩
    · cases h
  · rintro ⟨ss, hss⟩
    exact next?_of_eq (hss.symm.trans (List.append_assoc ..))

theorem next?_eq_none {r : Route ε} {q : List Segment} :
    r.next? q = none ↔ ∀ s, ¬q ++ [s] <+: r.segments := by
  simp only [← next?_eq_some, Option.eq_none_iff_forall_ne_some]

/-- The height a node at the end of `q` needs for the route. -/
def heightFrom (q : List Segment) (r : Route ε) : Nat :=
  if r.segments.getLast? = some .rest then Node.unbounded else r.segments.length + 1 - q.length

theorem heightFrom_pos {r : Route ε} {q : List Segment} (h : q <+: r.segments) :
    1 ≤ r.heightFrom q := by
  have := h.length_le
  unfold heightFrom Node.unbounded
  split <;> omega

theorem heightFrom_le (r : Route ε) (q : List Segment) : r.heightFrom q ≤ Node.unbounded := by
  have := r.length_segments_le
  unfold Pattern.mostSegments at this
  unfold heightFrom Node.unbounded
  split <;> omega

theorem raise_heightFrom {r : Route ε} {q : List Segment} {s : Segment}
    (h : q ++ [s] <+: r.segments) : Node.raise (r.heightFrom (q ++ [s])) = r.heightFrom q := by
  have hs := h.length_le
  have hm := r.length_segments_le
  simp only [List.length_append, List.length_singleton, Pattern.mostSegments] at hs hm
  unfold heightFrom Node.raise Node.unbounded
  simp only [List.length_append, List.length_singleton]
  split <;> omega

end Route

namespace Segment

theorem eq_of_raws {ss ss' : List Segment} (h : ∀ s ∈ ss, ofRaw? s.raw = some s)
    (h' : ∀ s ∈ ss', ofRaw? s.raw = some s) (he : ss.map raw = ss'.map raw) : ss = ss' := by
  have hr : (ss.map raw).map ofRaw? = ss.map some := by
    rw [List.map_map]
    exact List.map_congr_left h
  have hr' : (ss'.map raw).map ofRaw? = ss'.map some := by
    rw [List.map_map]
    exact List.map_congr_left h'
  exact List.map_injective_iff.2 (fun _ _ => Option.some.inj) (hr.symm.trans (he ▸ hr'))

end Segment

theorem Route.prefix_of_raws {r r' : Route ε} {q : List Segment} (h : q <+: r.segments)
    (h' : q.map Segment.raw <+: r'.raws) : q <+: r'.segments := by
  have ht : q = r'.segments.take q.length := by
    refine Segment.eq_of_raws (fun s hs => r.regular.ofRaw s (h.subset hs))
      (fun s hs => r'.regular.ofRaw s (List.mem_of_mem_take hs)) ?_
    rw [List.map_take, ← List.length_map (f := Segment.raw)]
    exact List.prefix_iff_eq_take.1 h'
  exact List.prefix_iff_eq_take.2 ht

namespace Routes

variable {rs : List (Route ε)} {q : List Segment}

/-- The place in the order of the first route that begins with some raw texts. -/
def earliest (rs : List (Route ε)) (q : List Text) : Nat := rs.findIdx fun r => q <+: r.raws

/-- The route that ends after `q`. -/
def ending (rs : List (Route ε)) (q : List Segment) : Option (Route ε) :=
  rs.find? fun r => r.segments = q

/-- Add the segment a route has after `q`, if it is new. -/
def join (q ss : List Segment) (r : Route ε) : List Segment :=
  match r.next? q with
  | some s => if s ∈ ss then ss else ss ++ [s]
  | none => ss

/-- The segments that come after `q`, in the order of the first route with each. -/
def nexts (rs : List (Route ε)) (q : List Segment) : List Segment := rs.foldl (join q) []

/-- The height of a node at the end of `q`. -/
def height (rs : List (Route ε)) (q : List Segment) : Nat :=
  rs.foldl (fun h r => if q <+: r.segments then max h (r.heightFrom q) else h) 1

@[simp] theorem nexts_nil : nexts ([] : List (Route ε)) q = [] := rfl

theorem nexts_concat (rs : List (Route ε)) (e : Route ε) :
    nexts (rs ++ [e]) q = join q (nexts rs q) e := by
  simp [nexts, List.foldl_append]

theorem height_concat (rs : List (Route ε)) (e : Route ε) :
    height (rs ++ [e]) q =
      if q <+: e.segments then max (height rs q) (e.heightFrom q) else height rs q := by
  simp [height, List.foldl_append]

theorem ending_concat (rs : List (Route ε)) (e : Route ε) :
    ending (rs ++ [e]) q = (ending rs q).or (if e.segments = q then some e else none) := by
  by_cases h : e.segments = q <;> simp [ending, List.find?_append, h]

theorem mem_nexts {s : Segment} : s ∈ nexts rs q ↔ ∃ r ∈ rs, q ++ [s] <+: r.segments := by
  induction rs using List.reverseRecOn with
  | nil => simp
  | append_singleton rs e ih =>
    simp only [List.mem_append, List.mem_singleton, or_and_right, exists_or, exists_eq_left]
    rw [nexts_concat, ← ih, ← Route.next?_eq_some, join]
    cases e.next? q with
    | none => simp
    | some t =>
      by_cases ht : t ∈ nexts rs q
      · simp only [ht, if_true, Option.some.injEq, iff_self_or]
        rintro rfl
        exact ht
      · simp [ht, eq_comm]

theorem exists_of_rest_mem_nexts (h : .rest ∈ nexts rs q) :
    ∃ r ∈ rs, r.segments = q ++ [.rest] := by
  obtain ⟨r, hr, hq⟩ := mem_nexts.1 h
  exact ⟨r, hr, Route.eq_of_rest_prefix hq⟩

theorem le_height {r : Route ε} (hr : r ∈ rs) (h : q <+: r.segments) :
    r.heightFrom q ≤ height rs q := by
  induction rs using List.reverseRecOn with
  | nil => cases hr
  | append_singleton rs e ih =>
    rw [height_concat]
    rcases List.mem_append.1 hr with hr | hr
    · have := ih hr
      split <;> omega
    · obtain rfl := List.mem_singleton.1 hr
      rw [if_pos h]
      exact Nat.le_max_right _ _

theorem lt_height {k : Nat} :
    k < height rs q ↔ k = 0 ∨ ∃ r ∈ rs, q <+: r.segments ∧ k < r.heightFrom q := by
  induction rs using List.reverseRecOn with
  | nil => simp [height]
  | append_singleton rs e ih =>
    simp only [List.mem_append, List.mem_singleton, or_and_right, exists_or, exists_eq_left]
    rw [height_concat, ← or_assoc, ← ih]
    by_cases he : q <+: e.segments
    · simp only [he, if_true, true_and]
      omega
    · simp only [he, if_false, false_and, or_false]

theorem one_le_height (rs : List (Route ε)) (q : List Segment) : 1 ≤ height rs q := by
  induction rs using List.reverseRecOn with
  | nil => exact Nat.le_refl _
  | append_singleton rs e ih =>
    rw [height_concat]
    split <;> omega

theorem height_le (rs : List (Route ε)) (q : List Segment) : height rs q ≤ Node.unbounded := by
  induction rs using List.reverseRecOn with
  | nil => exact Nat.le_of_ble_eq_true rfl
  | append_singleton rs e ih =>
    rw [height_concat]
    split
    · exact Nat.max_le.2 ⟨ih, e.heightFrom_le q⟩
    · exact ih

theorem raise_height_le {s : Segment} (hs : s ∈ nexts rs q) :
    Node.raise (height rs (q ++ [s])) ≤ height rs q := by
  obtain ⟨r, hr, hq⟩ := mem_nexts.1 hs
  have htwo : Node.raise 1 ≤ height rs q :=
    calc
      Node.raise 1 ≤ Node.raise (r.heightFrom (q ++ [s])) := by
        have := Route.heightFrom_pos hq
        unfold Node.raise
        omega
      _ = r.heightFrom q := Route.raise_heightFrom hq
      _ ≤ height rs q := le_height hr ((List.prefix_append q [s]).trans hq)
  have hmax : ∀ rs' : List (Route ε),
      Node.raise (height rs' (q ++ [s])) ≤ max (Node.raise 1) (height rs' q) := by
    intro rs'
    induction rs' using List.reverseRecOn with
    | nil => exact Nat.le_max_left _ _
    | append_singleton rs' e ih =>
      rw [height_concat, height_concat]
      by_cases he : q ++ [s] <+: e.segments
      · have hr := Route.raise_heightFrom he
        rw [if_pos he, if_pos ((List.prefix_append q [s]).trans he)]
        unfold Node.raise at *
        omega
      · rw [if_neg he]
        split <;> omega
  have := hmax rs
  omega

theorem ending_eq_some {r : Route ε} (h : ending rs q = some r) : r ∈ rs ∧ r.segments = q :=
  ⟨List.mem_of_find?_eq_some h, by simpa using List.find?_some h⟩

theorem ending_eq_none : ending rs q = none ↔ ∀ r ∈ rs, r.segments ≠ q := by
  simp [ending]

theorem eq_of_segments (hd : (rs.map Route.segments).Nodup) {r r' : Route ε} (hr : r ∈ rs)
    (hr' : r' ∈ rs) (h : r.segments = r'.segments) : r = r' :=
  List.inj_on_of_nodup_map hd hr hr' h

theorem earliest_lt {p : List Text} : earliest rs p < rs.length ↔ ∃ r ∈ rs, p <+: r.raws := by
  simp [earliest, List.findIdx_lt_length]

theorem earliest_concat {p : List Text} (e : Route ε) (h : ∃ r ∈ rs, p <+: r.raws) :
    earliest (rs ++ [e]) p = earliest rs p := by
  have := earliest_lt.2 h
  unfold earliest at *
  rw [List.findIdx_append, if_pos this]

theorem le_earliest_concat {p : List Text} (e : Route ε) (h : ¬∃ r ∈ rs, p <+: r.raws) :
    rs.length ≤ earliest (rs ++ [e]) p := by
  have := mt earliest_lt.1 h
  unfold earliest at *
  rw [List.findIdx_append, if_neg this]
  omega

theorem raws_prefix {r : Route ε} {s : Segment} (h : q ++ [s] <+: r.segments) :
    q.map Segment.raw ++ [s.raw] <+: r.raws := by
  simpa [Route.raws] using h.map Segment.raw

theorem nexts_of_raws {r : Route ε} {s : Segment} (h : q ++ [s] <+: r.segments)
    (hr : ∃ r ∈ rs, q.map Segment.raw ++ [s.raw] <+: r.raws) : s ∈ nexts rs q := by
  obtain ⟨r', hr', hq⟩ := hr
  exact mem_nexts.2 ⟨r', hr', Route.prefix_of_raws h (by simpa using hq)⟩

/-- The earliest route through one of the next segments comes before those through the others. -/
theorem pairwise_nexts (rs : List (Route ε)) (q : List Segment) :
    (nexts rs q).Pairwise fun a b =>
      earliest rs (q.map Segment.raw ++ [a.raw]) < earliest rs (q.map Segment.raw ++ [b.raw]) := by
  induction rs using List.reverseRecOn with
  | nil => exact .nil
  | append_singleton rs e ih =>
    have hold : ∀ {s}, s ∈ nexts rs q → ∃ r ∈ rs, q.map Segment.raw ++ [s.raw] <+: r.raws :=
      fun hs => (mem_nexts.1 hs).imp fun r hr => ⟨hr.1, raws_prefix hr.2⟩
    have ih : (nexts rs q).Pairwise fun a b =>
        earliest (rs ++ [e]) (q.map Segment.raw ++ [a.raw]) <
          earliest (rs ++ [e]) (q.map Segment.raw ++ [b.raw]) := by
      refine ih.imp_of_mem fun ha hb hab => ?_
      rwa [earliest_concat e (hold ha), earliest_concat e (hold hb)]
    rw [nexts_concat]
    unfold join
    split
    · rename_i s hs
      split
      · exact ih
      · rename_i hn
        refine List.pairwise_append.2 ⟨ih, List.pairwise_singleton _ _, fun a ha b hb => ?_⟩
        obtain rfl := List.mem_singleton.1 hb
        have hnew := mt (nexts_of_raws (Route.next?_eq_some.1 hs)) hn
        rw [earliest_concat e (hold ha)]
        exact Nat.lt_of_lt_of_le (earliest_lt.2 (hold ha)) (le_earliest_concat e hnew)
    · exact ih

theorem nodup_nexts (rs : List (Route ε)) (q : List Segment) : (nexts rs q).Nodup :=
  (pairwise_nexts rs q).imp fun h => by
    rintro rfl
    exact Nat.lt_irrefl _ h

theorem ending_of_untouched (h : ∀ r ∈ rs, ¬q <+: r.segments) : ending rs q = none :=
  ending_eq_none.2 fun r hr he => h r hr (he ▸ List.prefix_refl _)

theorem nexts_of_untouched (h : ∀ r ∈ rs, ¬q <+: r.segments) : nexts rs q = [] := by
  refine List.eq_nil_iff_forall_not_mem.2 fun s hs => ?_
  obtain ⟨r, hr, hq⟩ := mem_nexts.1 hs
  exact h r hr ((List.prefix_append q [s]).trans hq)

theorem height_of_untouched (h : ∀ r ∈ rs, ¬q <+: r.segments) : height rs q = 1 := by
  induction rs using List.reverseRecOn with
  | nil => rfl
  | append_singleton rs e ih =>
    rw [height_concat, if_neg (h e (by simp)), ih fun r hr => h r (List.mem_append_left _ hr)]

theorem height_of_first {e : Route ε} (he : q <+: e.segments)
    (h : ∀ r ∈ rs, ¬q <+: r.segments) : height (rs ++ [e]) q = e.heightFrom q := by
  have := Route.heightFrom_pos he
  rw [height_concat, if_pos he, height_of_untouched h]
  omega

end Routes

end PathRouting
