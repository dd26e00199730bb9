import Mathlib.Data.List.Nodup
import PathRouting.Proofs.Path
import PathRouting.Proofs.Pattern.Grammar

/-! # Joined patterns

Each segment of a pattern is read as it would be alone.  What the segments around it add are
conditions on all of them together: a rest marker comes last, the names are different, and there are
not too many of either.  So a pattern joined from two is read as the one and then the other.
-/

namespace PathRouting

/-- The segment is what its raw text is read as alone. -/
def Segment.Alone (s : Segment) : Prop :=
  Pattern.segment [] true s.raw = .ok (s.names.reverse, s)

theorem Segment.Alone.eq_of_raw {s s' : Segment} (h : s.Alone) (h' : s'.Alone)
    (hraw : s.raw = s'.raw) : s = s' := by
  rw [Segment.Alone, hraw] at h
  exact (Prod.mk.inj (Except.ok.inj (h.symm.trans h'))).2

namespace Pattern

variable {names names' : List Text} {ms : List Mark} {ps : List Piece} {raw p q : Text}
  {s s' : Segment} {ss ss' : List Segment}

theorem Fresh.sublist (h : Fresh names) (hs : names'.Sublist names) : Fresh names' where
  nodup := hs.nodup h.nodup
  length_le := Nat.le_trans hs.length_le h.length_le

theorem fresh_nil : Fresh [] := ⟨.nil, Nat.zero_le _⟩

theorem fresh_singleton (name : Text) : Fresh [name] :=
  ⟨List.nodup_singleton name, Nat.succ_le_of_lt (by decide)⟩

/-! ## Segments alone and after others -/

theorem pieces_text_eq_ok {text : Text} : pieces names (.text text :: ms) = .ok (names', ps) ↔
    ∃ ps', pieces names ms = .ok (names', ps') ∧ ps = .literal text :: ps' := by
  rw [pieces, bind_eq_ok]
  constructor
  · rintro ⟨⟨names'', ps'⟩, hp, h⟩
    cases h
    exact ⟨ps', hp, rfl⟩
  · rintro ⟨ps', hp, rfl⟩
    exact ⟨_, hp, rfl⟩

/-- Names used before leave the pieces as they are, as long as all names stay fresh. -/
theorem pieces_after (h : Fresh names) : pieces names ms = .ok (names', ps) ↔
    pieces [] ms = .ok ((slotNames ps).reverse, ps) ∧
      names' = (slotNames ps).reverse ++ names ∧ Fresh names' := by
  induction ms generalizing names names' ps with
  | nil =>
    simp only [pieces, Except.ok.injEq, Prod.mk.injEq]
    constructor
    · rintro ⟨rfl, rfl⟩
      exact ⟨⟨rfl, rfl⟩, rfl, h⟩
    · rintro ⟨⟨-, rfl⟩, rfl, -⟩
      exact ⟨rfl, rfl⟩
  | cons m ms ih =>
    cases m with
    | text text =>
      rw [pieces_text_eq_ok, pieces_text_eq_ok]
      constructor
      · rintro ⟨ps', hp, rfl⟩
        obtain ⟨halone, hnames, hfresh⟩ := (ih h).1 hp
        exact ⟨⟨ps', halone, rfl⟩, hnames, hfresh⟩
      · rintro ⟨⟨ps', halone, rfl⟩, hnames, hfresh⟩
        exact ⟨ps', (ih h).2 ⟨halone, hnames, hfresh⟩, rfl⟩
    | body body =>
      rw [pieces_body_eq_ok, pieces_body_eq_ok]
      constructor
      · rintro ⟨name, rule, ps', hb, hn, hm, hp, rfl⟩
        obtain ⟨halone, rfl, hfresh⟩ := (ih (h.cons_iff.2 ⟨hn, hm⟩)).1 hp
        -- the name itself is all that comes before the rest of the pieces read alone
        have hone : Fresh ((slotNames ps').reverse ++ [name]) :=
          hfresh.sublist (List.Sublist.append_left (by simp) _)
        refine ⟨⟨name, rule, ps', hb, List.not_mem_nil, by decide, ?_, rfl⟩, by simp, hfresh⟩
        exact (ih (fresh_singleton name)).2 ⟨halone, by simp, by simpa using hone⟩
      · rintro ⟨⟨name, rule, ps', hb, -, -, hp, rfl⟩, rfl, hfresh⟩
        obtain ⟨halone, -, -⟩ := (ih (fresh_singleton name)).1 hp
        rw [slotNames_slot, List.reverse_cons, List.append_assoc] at hfresh
        have hused : Fresh (name :: names) := hfresh.of_append
        obtain ⟨hn, hm⟩ := h.cons_iff.1 hused
        refine ⟨name, rule, ps', hb, hn, hm, (ih hused).2 ⟨halone, ?_⟩, rfl⟩
        simpa using hfresh

theorem slotted_iff : slotted names raw = .ok (names', s) ↔
    (marks raw).2 = none ∧
      ∃ ps, pieces names (marks raw).1 = .ok (names', ps) ∧ s = .slotted raw ps := by
  rw [slotted, bind_eq_ok]
  cases (marks raw).2 with
  | some fault => simp
  | none =>
    constructor
    · rintro ⟨⟨names'', ps⟩, hp, h⟩
      cases h
      exact ⟨rfl, ps, hp, rfl⟩
    · rintro ⟨-, ps, hp, rfl⟩
      exact ⟨_, hp, rfl⟩

theorem length_slots (ps : List Piece) :
    (Segment.slotted raw ps).slots.length = (slotNames ps).length :=
  (List.length_map _).symm

theorem segment_restText {isLast : Bool} :
    segment names isLast Segment.restText = .ok (names', s) ↔
      isLast = true ∧ Segment.restName ∉ names ∧ names' = Segment.restName :: names ∧
        s = .rest := by
  unfold segment
  cases isLast <;> by_cases hn : Segment.restName ∈ names <;> simp [hn, eq_comm]

theorem alone_rest : Segment.rest.Alone :=
  segment_restText.2 ⟨rfl, List.not_mem_nil, rfl, rfl⟩

theorem slotted_after (h : Fresh names) : slotted names raw = .ok (names', s) ↔
    slotted [] raw = .ok (s.names.reverse, s) ∧ names' = s.names.reverse ++ names ∧
      names'.Nodup ∧ names.length + s.slots.length ≤ 255 := by
  simp only [slotted_iff, pieces_after h]
  constructor
  · rintro ⟨hfault, ps, ⟨hp, rfl, hfresh⟩, rfl⟩
    refine ⟨⟨hfault, ps, hp, rfl⟩, rfl, hfresh.nodup, ?_⟩
    simpa [length_slots, Nat.add_comm] using hfresh.length_le
  · rintro ⟨⟨hfault, ps, hp, rfl⟩, rfl, hnodup, hlength⟩
    refine ⟨hfault, ps, ⟨hp, rfl, hnodup, ?_⟩, rfl⟩
    simpa [length_slots, Nat.add_comm] using hlength

theorem segment_of_ne_rest {isLast : Bool} (h : raw ≠ Segment.restText) :
    segment names isLast raw = if raw.contains '*' then .error .strayStar
      else if raw.any isBracket then slotted names raw
      else .ok (names, .plain raw) := by
  rw [segment, if_neg h]

theorem segment_after {isLast : Bool} (h : Fresh names) :
    segment names isLast raw = .ok (names', s) ↔
      s.raw = raw ∧ s.Alone ∧ (s = .rest → isLast = true) ∧
        names' = s.names.reverse ++ names ∧ names'.Nodup ∧
          names.length + s.slots.length ≤ 255 := by
  by_cases hraw : raw = Segment.restText
  · subst hraw
    rw [segment_restText]
    constructor
    · rintro ⟨hlast, hn, rfl, rfl⟩
      exact ⟨rfl, alone_rest, fun _ => hlast, rfl, List.nodup_cons.2 ⟨hn, h.nodup⟩, h.length_le⟩
    · rintro ⟨hs, halone, hlast, rfl, hnodup, -⟩
      rw [Segment.Alone, hs] at halone
      obtain ⟨-, -, -, rfl⟩ := segment_restText.1 halone
      exact ⟨hlast rfl, (List.nodup_cons.1 hnodup).1, rfl, rfl⟩
  have halone (hs : s.raw = raw) : s.Alone ↔
      segment [] true raw = .ok (s.names.reverse, s) := by rw [Segment.Alone, hs]
  rw [segment_of_ne_rest hraw]
  by_cases hstar : raw.contains '*' = true
  · rw [if_pos hstar]
    refine iff_of_false nofun ?_
    rintro ⟨hs, ha, -⟩
    rw [halone hs, segment_of_ne_rest hraw, if_pos hstar] at ha
    cases ha
  rw [if_neg hstar]
  by_cases hbracket : raw.any isBracket = true
  · rw [if_pos hbracket]
    constructor
    · intro hs
      obtain ⟨ha, hnames, hcount⟩ := (slotted_after h).1 hs
      obtain ⟨-, ps, -, rfl⟩ := slotted_iff.1 hs
      refine ⟨rfl, (halone rfl).2 ?_, nofun, hnames, hcount⟩
      rw [segment_of_ne_rest hraw, if_neg hstar, if_pos hbracket, ha]
    · rintro ⟨hs, ha, -, hnames, hcount⟩
      rw [halone hs, segment_of_ne_rest hraw, if_neg hstar, if_pos hbracket] at ha
      exact (slotted_after h).2 ⟨ha, hnames, hcount⟩
  · rw [if_neg hbracket]
    constructor
    · intro hs
      cases hs
      refine ⟨rfl, (halone rfl).2 ?_, nofun, rfl, h.nodup, h.length_le⟩
      rw [segment_of_ne_rest hraw, if_neg hstar, if_neg hbracket]
      rfl
    · rintro ⟨hs, ha, -, rfl, -⟩
      rw [halone hs, segment_of_ne_rest hraw, if_neg hstar, if_neg hbracket] at ha
      obtain ⟨hnames, rfl⟩ := Prod.mk.inj (Except.ok.inj ha)
      rw [← hnames, List.nil_append]

theorem fresh_after (h : s ≠ .rest) : Fresh (s.names.reverse ++ names) ↔
    (s.names.reverse ++ names).Nodup ∧ names.length + s.slots.length ≤ 255 := by
  have hlength : (s.names.reverse ++ names).length = names.length + s.slots.length := by
    simp [Segment.names_of_ne_rest h, Nat.add_comm]
  rw [← hlength]
  exact ⟨fun hfresh => ⟨hfresh.nodup, hfresh.length_le⟩, fun ⟨hnodup, hle⟩ => ⟨hnodup, hle⟩⟩

/-! ## Whole patterns -/

/-- What segments are that can be those of a pattern after some names, if they are few enough. -/
structure Composed (names : List Text) (ss : List Segment) : Prop where
  alone : ∀ s ∈ ss, s.Alone
  rest_last : ∀ front back, ss = front ++ .rest :: back → back = []
  names_nodup : ((ss.flatMap Segment.names).reverse ++ names).Nodup
  slots_le : names.length + (ss.flatMap Segment.slots).length ≤ 255

theorem Composed.fresh (h : Composed names ss) : Fresh names where
  nodup := (List.nodup_append.1 h.names_nodup).2.1
  length_le := Nat.le_trans (Nat.le_add_right _ _) h.slots_le

theorem composed_nil (h : Fresh names) : Composed names [] :=
  ⟨nofun, fun front back he => by simp at he, h.nodup, h.length_le⟩

theorem rest_last_cons : (∀ front back, s :: ss = front ++ .rest :: back → back = []) ↔
    (s = .rest → ss = []) ∧ ∀ front back, ss = front ++ .rest :: back → back = [] := by
  constructor
  · intro h
    refine ⟨?_, fun front back he => h (s :: front) back (by rw [he, List.cons_append])⟩
    rintro rfl
    exact h [] ss rfl
  · rintro ⟨hs, hss⟩ front back he
    cases front with
    | nil =>
      obtain ⟨rfl, rfl⟩ := List.cons_eq_cons.1 he
      exact hs rfl
    | cons _ front => exact hss front back (List.cons_eq_cons.1 he).2

theorem composed_cons (hs : s ≠ .rest) :
    Composed names (s :: ss) ↔ s.Alone ∧ Composed (s.names.reverse ++ names) ss := by
  have hnames : ((s :: ss).flatMap Segment.names).reverse ++ names =
      (ss.flatMap Segment.names).reverse ++ (s.names.reverse ++ names) := by simp
  have hlength : names.length + ((s :: ss).flatMap Segment.slots).length =
      (s.names.reverse ++ names).length + (ss.flatMap Segment.slots).length := by
    simp [Segment.names_of_ne_rest hs]
    omega
  constructor
  · rintro ⟨halone, hrest, hnodup, hslots⟩
    obtain ⟨ha, halone⟩ := List.forall_mem_cons.1 halone
    exact ⟨ha, halone, (rest_last_cons.1 hrest).2, hnames ▸ hnodup, hlength ▸ hslots⟩
  · rintro ⟨ha, halone, hrest, hnodup, hslots⟩
    exact ⟨List.forall_mem_cons.2 ⟨ha, halone⟩, rest_last_cons.2 ⟨(absurd · hs), hrest⟩,
      hnames ▸ hnodup, hlength ▸ hslots⟩

theorem composed_rest (h : Fresh names) :
    Composed names (.rest :: ss) ↔ ss = [] ∧ Segment.restName ∉ names := by
  constructor
  · intro hss
    obtain rfl := (rest_last_cons.1 hss.rest_last).1 rfl
    exact ⟨rfl, (List.nodup_cons.1 hss.names_nodup).1⟩
  · rintro ⟨rfl, hname⟩
    refine ⟨List.forall_mem_singleton.2 alone_rest, ?_, List.nodup_cons.2 ⟨hname, h.nodup⟩,
      h.length_le⟩
    exact rest_last_cons.2 ⟨fun _ => rfl, (composed_nil h).rest_last⟩

theorem segmentsFrom_cons_eq_ok {done : List Segment} {raws : List Text} :
    segmentsFrom names done (raw :: raws) = .ok ss ↔
      ∃ names' s, segment names raws.isEmpty raw = .ok (names', s) ∧
        segmentsFrom names' (s :: done) raws = .ok ss := by
  rw [segmentsFrom]
  cases segment names raws.isEmpty raw with
  | error fault => simp
  | ok used =>
    obtain ⟨names', s⟩ := used
    simp

theorem segmentsFrom_iff {done : List Segment} {raws : List Text} (h : Fresh names) :
    segmentsFrom names done raws = .ok ss ↔ ∃ more, ss = done.reverse ++ more ∧
      more.map Segment.raw = raws ∧ Composed names more := by
  induction raws generalizing names done with
  | nil =>
    simp only [segmentsFrom, Except.ok.injEq, List.map_eq_nil_iff]
    constructor
    · rintro rfl
      exact ⟨[], (List.append_nil _).symm, rfl, composed_nil h⟩
    · rintro ⟨-, rfl, rfl, -⟩
      exact (List.append_nil _).symm
  | cons raw raws ih =>
    rw [segmentsFrom_cons_eq_ok]
    constructor
    · rintro ⟨names', s, hs, hss⟩
      obtain ⟨rfl, ha, hlast, rfl, hnodup, hlength⟩ := (segment_after h).1 hs
      by_cases hrest : s = .rest
      · subst hrest
        obtain rfl := List.isEmpty_iff.1 (hlast rfl)
        cases hss
        refine ⟨[.rest], by simp, rfl, (composed_rest h).2 ⟨rfl, ?_⟩⟩
        exact (List.nodup_cons.1 hnodup).1
      · have hfresh : Fresh (s.names.reverse ++ names) := (fresh_after hrest).2 ⟨hnodup, hlength⟩
        obtain ⟨more, rfl, rfl, hmore⟩ := (ih hfresh).1 hss
        exact ⟨s :: more, by simp, rfl, (composed_cons hrest).2 ⟨ha, hmore⟩⟩
    · rintro ⟨more, rfl, hraws, hmore⟩
      obtain ⟨s, more, rfl, rfl, rfl⟩ := List.map_eq_cons_iff.1 hraws
      by_cases hrest : s = .rest
      · subst hrest
        obtain ⟨rfl, hname⟩ := (composed_rest h).1 hmore
        exact ⟨_, .rest, segment_restText.2 ⟨rfl, hname, rfl, rfl⟩, by simp [segmentsFrom]⟩
      · obtain ⟨ha, hmore⟩ := (composed_cons hrest).1 hmore
        have hfresh : Fresh (s.names.reverse ++ names) := hmore.fresh
        obtain ⟨hnodup, hlength⟩ := (fresh_after hrest).1 hfresh
        refine ⟨_, s, (segment_after h).2 ⟨rfl, ha, (absurd · hrest), rfl, hnodup, hlength⟩, ?_⟩
        exact (ih hfresh).2 ⟨more, by simp, rfl, hmore⟩

theorem parse_iff {pattern : Text} : parse pattern = .ok ss ↔
    Path.segments pattern = some (ss.map Segment.raw) ∧ ss.length ≤ mostSegments ∧
      Composed [] ss := by
  rw [parse_eq_ok, read]
  cases hpath : Path.segments pattern with
  | none => simp
  | some raws =>
    dsimp only
    rw [Option.some_inj]
    constructor
    · intro h
      split at h
      · cases h
      · rename_i hdeep
        obtain ⟨more, rfl, rfl, hmore⟩ := (segmentsFrom_iff fresh_nil).1 h
        exact ⟨rfl, by simpa using hdeep, hmore⟩
    · rintro ⟨rfl, hdeep, hss⟩
      rw [if_neg (by simpa using hdeep)]
      exact (segmentsFrom_iff fresh_nil).2 ⟨ss, rfl, rfl, hss⟩

/-! ## Joined patterns -/

theorem composed_root_iff : Composed [] ss ↔ (∀ s ∈ ss, s.Alone) ∧
    (∀ front back, ss = front ++ .rest :: back → back = []) ∧
      (ss.flatMap Segment.names).Nodup ∧ (ss.flatMap Segment.slots).length ≤ 255 := by
  constructor
  · rintro ⟨halone, hrest, hnodup, hslots⟩
    simp only [List.append_nil, List.nodup_reverse, List.length_nil, Nat.zero_add] at hnodup hslots
    exact ⟨halone, hrest, hnodup, hslots⟩
  · rintro ⟨halone, hrest, hnodup, hslots⟩
    refine ⟨halone, hrest, ?_, ?_⟩
    · rwa [List.append_nil, List.nodup_reverse]
    · rwa [List.length_nil, Nat.zero_add]

theorem rest_last_append :
    (∀ front back, ss ++ ss' = front ++ .rest :: back → back = []) ↔
      (∀ front back, ss = front ++ .rest :: back → back = []) ∧
      (∀ front back, ss' = front ++ .rest :: back → back = []) ∧
        (ss.getLast? = some .rest → ss' = []) := by
  constructor
  · intro h
    refine ⟨fun front back he => ?_, fun front back he => ?_, fun he => ?_⟩
    · have hback := h front (back ++ ss') (by simp [he])
      exact (List.append_eq_nil_iff.1 hback).1
    · exact h (ss ++ front) back (by rw [he, List.append_assoc])
    · obtain ⟨front, rfl⟩ := List.getLast?_eq_some_iff.1 he
      exact h front ss' (by simp)
  · rintro ⟨hss, hss', hlast⟩ front back he
    rcases List.append_eq_append_iff.1 he with ⟨more, rfl, hmore⟩ | ⟨more, rfl, hmore⟩
    · exact hss' more back hmore
    · cases more with
      | nil => exact hss' [] back hmore.symm
      | cons s more =>
        obtain ⟨rfl, rfl⟩ := List.cons_eq_cons.1 hmore
        obtain rfl := hss front more rfl
        exact hlast (by simp)

theorem composed_append : Composed [] (ss ++ ss') ↔ Composed [] ss ∧ Composed [] ss' ∧
    (ss.flatMap Segment.names).Disjoint (ss'.flatMap Segment.names) ∧
      (ss.flatMap Segment.slots).length + (ss'.flatMap Segment.slots).length ≤ 255 ∧
        (ss.getLast? = some .rest → ss' = []) := by
  simp only [composed_root_iff, rest_last_append, List.forall_mem_append, List.flatMap_append,
    List.nodup_append', List.length_append]
  constructor
  · rintro ⟨⟨ha, ha'⟩, ⟨hr, hr', hlast⟩, ⟨hn, hn', hdisjoint⟩, hslots⟩
    exact ⟨⟨ha, hr, hn, by omega⟩, ⟨ha', hr', hn', by omega⟩, hdisjoint, hslots, hlast⟩
  · rintro ⟨⟨ha, hr, hn, -⟩, ⟨ha', hr', hn', -⟩, hdisjoint, hslots, hlast⟩
    exact ⟨⟨ha, ha'⟩, ⟨hr, hr', hlast⟩, ⟨hn, hn', hdisjoint⟩, hslots⟩

/-- Two patterns joined by a slash are read as the one and then the other, if each of them is
read, their names differ, their placeholders and segments are few enough together, and no segment
comes after a rest marker.  Segments of the same raw text are read alike in all patterns. -/
theorem parse_append (p q : Text) :
    (∀ ss, parse (p ++ '/' :: q) = .ok ss ↔ ∃ ps qs, parse p = .ok ps ∧ parse q = .ok qs ∧
      (ps.flatMap Segment.names).Disjoint (qs.flatMap Segment.names) ∧
      (ps.flatMap Segment.slots).length + (qs.flatMap Segment.slots).length ≤ 255 ∧
      ps.length + qs.length < 65535 ∧ (ps.getLast? = some .rest → qs = []) ∧
      ss = ps ++ qs) ∧
    ∀ ps qs, parse p = .ok ps → parse q = .ok qs → ∀ s ∈ ps, ∀ s' ∈ qs, s.raw = s'.raw →
      s = s' := by
  simp only [parse_iff]
  constructor
  · intro ss
    constructor
    · rintro ⟨hpath, hdeep, hss⟩
      obtain ⟨a, b, ha, hb, hraws⟩ := Path.segments_append_eq_some.1 hpath
      obtain ⟨ps, qs, rfl, rfl, rfl⟩ := List.map_eq_append_iff.1 hraws
      obtain ⟨hps, hqs, hdisjoint, hslots, hlast⟩ := composed_append.1 hss
      rw [List.length_append, mostSegments] at hdeep
      have hp : ps.length ≤ mostSegments := by rw [mostSegments]; omega
      have hq : qs.length ≤ mostSegments := by rw [mostSegments]; omega
      exact ⟨ps, qs, ⟨ha, hp, hps⟩, ⟨hb, hq, hqs⟩, hdisjoint, hslots, Nat.lt_succ_of_le hdeep,
        hlast, rfl⟩
    · rintro ⟨ps, qs, ⟨ha, -, hps⟩, ⟨hb, -, hqs⟩, hdisjoint, hslots, hdeep, hlast, rfl⟩
      refine ⟨?_, ?_, composed_append.2 ⟨hps, hqs, hdisjoint, hslots, hlast⟩⟩
      · rw [Path.segments_append ha hb, List.map_append]
      · rw [List.length_append]
        exact Nat.le_of_lt_succ hdeep
  · rintro ps qs ⟨-, -, hps⟩ ⟨-, -, hqs⟩ s hs s' hs' hraw
    exact (hps.alone s hs).eq_of_raw (hqs.alone s' hs') hraw

end Pattern

end PathRouting
