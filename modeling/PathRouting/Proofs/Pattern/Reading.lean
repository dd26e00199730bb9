import Mathlib.Data.List.Nodup
import PathRouting.Pattern.Parse

/-! # What a pattern reads as

The names used before decide whether a segment is read, but not what it is read as: that is settled
by its raw text.  The segments of a pattern bind different names, and only the last of them can be a
rest marker.
-/

namespace PathRouting

theorem bind_eq_ok {κ α β : Type} {x : Except κ α} {f : α → Except κ β} {b : β} :
    (x >>= f) = .ok b ↔ ∃ a, x = .ok a ∧ f a = .ok b := by
  cases x <;> simp [bind, Except.bind]

theorem exists_eq_ok {κ α : Type} {x : Except κ α} (h : x.isOk = true) : ∃ a, x = .ok a := by
  cases x with
  | error e => cases h
  | ok a => exact ⟨a, rfl⟩

@[simp] theorem throw_ne_ok {α : Type} {e : Fault} {a : α} : (throw e : Except Fault α) ≠ .ok a :=
  nofun

namespace Pattern

/-- The pieces of marks, whatever names were used before. -/
def piecesOf : List Mark → Option (List Piece)
  | [] => some []
  | .text text :: ms => (piecesOf ms).map (.literal text :: ·)
  | .body body :: ms =>
    match placeholder body with
    | .ok (name, rule) => (piecesOf ms).map (.slot name rule :: ·)
    | .error _ => none

theorem piecesOf_body_eq_some {body : Text} {ms : List Mark} {ps : List Piece} :
    piecesOf (.body body :: ms) = some ps ↔ ∃ name rule ps', placeholder body = .ok (name, rule) ∧
      piecesOf ms = some ps' ∧ ps = .slot name rule :: ps' := by
  rw [piecesOf]
  cases placeholder body with
  | error fault => simp
  | ok slot =>
    obtain ⟨name, rule⟩ := slot
    simp [Option.map_eq_some_iff, eq_comm (b := ps)]

def slotNames (ps : List Piece) : List Text := (ps.filterMap Piece.slot?).map (·.1)

@[simp] theorem slotNames_nil : slotNames [] = [] := rfl

@[simp] theorem slotNames_literal (text : Text) (ps : List Piece) :
    slotNames (.literal text :: ps) = slotNames ps := rfl

@[simp] theorem slotNames_slot (name : Text) (rule : Rule) (ps : List Piece) :
    slotNames (.slot name rule :: ps) = name :: slotNames ps := rfl

end Pattern

namespace Segment

open Pattern

/-- What a raw text is read as, whatever names were used before. -/
def ofRaw? (raw : Text) : Option Segment :=
  if raw = restText then some .rest
  else if raw.any isBracket then (piecesOf (marks raw).1).map (.slotted raw)
  else some (.plain raw)

@[simp] theorem names_slotted (raw : Text) (ps : List Piece) :
    (Segment.slotted raw ps).names = slotNames ps := rfl

@[simp] theorem names_plain (text : Text) : (Segment.plain text).names = [] := rfl

@[simp] theorem names_rest : Segment.rest.names = [restName] := rfl

theorem names_of_ne_rest {s : Segment} (h : s ≠ .rest) : s.names = s.slots.map (·.1) := by
  cases s with
  | rest => exact absurd rfl h
  | _ => rfl

end Segment

namespace Pattern

theorem pieces_body_eq_ok {names names' : List Text} {body : Text} {ms : List Mark}
    {ps : List Piece} : pieces names (.body body :: ms) = .ok (names', ps) ↔
      ∃ name rule ps', placeholder body = .ok (name, rule) ∧ name ∉ names ∧
        names.length < mostNames ∧ pieces (name :: names) ms = .ok (names', ps') ∧
        ps = .slot name rule :: ps' := by
  rw [pieces, bind_eq_ok]
  constructor
  · rintro ⟨⟨name, rule⟩, hb, h⟩
    by_cases hn : name ∈ names
    · simp [hn, bind_eq_ok] at h
    by_cases hm : mostNames ≤ names.length
    · simp [hn, hm, bind_eq_ok] at h
    · simp only [List.contains_eq_mem, hn, decide_false, Bool.false_eq_true, if_false, ge_iff_le,
        hm] at h
      obtain ⟨⟨names'', ps'⟩, hp, h⟩ := bind_eq_ok.1 h
      cases h
      exact ⟨name, rule, ps', hb, hn, Nat.lt_of_not_le hm, hp, rfl⟩
  · rintro ⟨name, rule, ps', hb, hn, hm, hp, rfl⟩
    refine ⟨(name, rule), hb, ?_⟩
    simp only [List.contains_eq_mem, hn, decide_false, Bool.false_eq_true, if_false, ge_iff_le,
      Nat.not_le.2 hm]
    exact bind_eq_ok.2 ⟨(names', ps'), hp, rfl⟩

theorem pieces_eq_ok {names names' : List Text} {ms : List Mark} {ps : List Piece}
    (h : pieces names ms = .ok (names', ps)) :
    piecesOf ms = some ps ∧ names' = (slotNames ps).reverse ++ names ∧
      (names.Nodup → names'.Nodup) := by
  induction ms generalizing names ps with
  | nil =>
    cases h
    exact ⟨rfl, rfl, id⟩
  | cons m ms ih =>
    cases m with
    | text text =>
      obtain ⟨⟨names'', ps'⟩, hp, h⟩ := bind_eq_ok.1 h
      cases h
      obtain ⟨hps, hnames, hnd⟩ := ih hp
      exact ⟨by simp [piecesOf, hps], hnames, hnd⟩
    | body body =>
      obtain ⟨name, rule, ps', hb, hn, -, hp, rfl⟩ := pieces_body_eq_ok.1 h
      obtain ⟨hps, hnames, hnd⟩ := ih hp
      refine ⟨by simp [piecesOf, hb, hps], by simpa using hnames, fun h => hnd ?_⟩
      exact List.nodup_cons.2 ⟨hn, h⟩

theorem slotted_eq_ok {names names' : List Text} {raw : Text} {s : Segment}
    (h : slotted names raw = .ok (names', s)) :
    ∃ ps, s = .slotted raw ps ∧ piecesOf (marks raw).1 = some ps ∧
      names' = (slotNames ps).reverse ++ names ∧ (names.Nodup → names'.Nodup) := by
  unfold slotted at h
  obtain ⟨⟨names'', ps⟩, hp, h⟩ := bind_eq_ok.1 h
  cases hf : (marks raw).2 with
  | some fault => simp [hf] at h
  | none =>
    simp only [hf] at h
    cases h
    exact ⟨ps, rfl, pieces_eq_ok hp⟩

theorem segment_eq_ok {names names' : List Text} {isLast : Bool} {raw : Text} {s : Segment}
    (h : segment names isLast raw = .ok (names', s)) :
    s.raw = raw ∧ Segment.ofRaw? raw = some s ∧ (s = .rest → isLast = true) ∧
      names' = s.names.reverse ++ names ∧ (names.Nodup → names'.Nodup) := by
  unfold segment at h
  unfold Segment.ofRaw?
  split at h
  · rename_i hr
    split at h
    · cases h
    · rename_i hl
      split at h
      · cases h
      · rename_i hn
        cases h
        refine ⟨hr.symm, if_pos hr, fun _ => by simpa using hl, rfl, fun h => ?_⟩
        exact List.nodup_cons.2 ⟨by simpa using hn, h⟩
  · rename_i hr
    split at h
    · cases h
    · split at h
      · rename_i hb
        obtain ⟨ps, rfl, hps, hnames, hnd⟩ := slotted_eq_ok h
        exact ⟨rfl, by simp [hr, hb, hps], nofun, hnames, hnd⟩
      · rename_i hb
        cases h
        exact ⟨rfl, by simp [hr, hb], nofun, rfl, id⟩

/-- What the segments of every pattern have in common. -/
structure Regular (ss : List Segment) : Prop where
  ofRaw : ∀ s ∈ ss, Segment.ofRaw? s.raw = some s
  rest_last : ∀ front back, ss = front ++ .rest :: back → back = []
  names_nodup : (ss.flatMap Segment.names).Nodup

theorem segmentsFrom_eq_ok {names : List Text} {done ss : List Segment} {raws : List Text}
    (h : segmentsFrom names done raws = .ok ss) :
    ∃ more, ss = done.reverse ++ more ∧ more.map Segment.raw = raws ∧
      (∀ s ∈ more, Segment.ofRaw? s.raw = some s) ∧
      (∀ front back, more = front ++ .rest :: back → back = []) ∧
      (names.Nodup → (names.reverse ++ more.flatMap Segment.names).Nodup) := by
  induction raws generalizing names done with
  | nil =>
    cases h
    exact ⟨[], by simp, rfl, by simp, by simp, fun h => by simpa [List.nodup_reverse] using h⟩
  | cons raw raws ih =>
    rw [segmentsFrom] at h
    split at h
    · rename_i names' s hs
      obtain ⟨hraw, hof, hlast, hnames, hnd⟩ := segment_eq_ok hs
      obtain ⟨more, rfl, hraws, hofs, hrest, hnds⟩ := ih h
      refine ⟨s :: more, by simp, by simp [hraw, hraws], ?_, ?_, fun h => ?_⟩
      · exact List.forall_mem_cons.2 ⟨hraw ▸ hof, hofs⟩
      · intro front back he
        cases front with
        | nil =>
          obtain ⟨rfl, rfl⟩ := List.cons_eq_cons.1 he
          have he : raws = [] := by simpa using hlast rfl
          rw [he] at hraws
          exact List.map_eq_nil_iff.1 hraws
        | cons t front => exact hrest front back (List.cons_eq_cons.1 he).2
      · simpa [hnames] using hnds (hnd h)
    · cases h

theorem parse_of_read {pattern : Text} {ss : List Segment} (h : read pattern = .ok ss) :
    parse pattern = .ok ss := by
  rw [parse, h]
  rfl

theorem parse_eq_ok {pattern : Text} {ss : List Segment} :
    parse pattern = .ok ss ↔ read pattern = .ok ss := by
  refine ⟨fun h => ?_, parse_of_read⟩
  unfold parse at h
  cases hread : read pattern with
  | error fault => simp [hread, Except.mapError] at h
  | ok ss' => simpa [hread, Except.mapError] using h

theorem pattern_of_parse_eq_error {pattern : Text} {rejection : Rejection}
    (h : parse pattern = .error rejection) : rejection.pattern = pattern := by
  unfold parse at h
  cases hread : read pattern with
  | error fault =>
    rw [hread] at h
    cases h
    rfl
  | ok ss => simp [hread, Except.mapError] at h

/-- The segments of a pattern keep the pieces of its path, and there are not too many of them. -/
theorem read_eq_ok {pattern : Text} {ss : List Segment} (h : read pattern = .ok ss) :
    Path.segments pattern = some (ss.map Segment.raw) ∧ ss.length ≤ mostSegments ∧ Regular ss := by
  unfold read at h
  split at h
  · cases h
  · rename_i raws hp
    split at h
    · cases h
    · rename_i hl
      obtain ⟨more, rfl, hraws, hof, hrest, hnd⟩ := segmentsFrom_eq_ok h
      subst hraws
      exact ⟨hp, by simpa using hl, hof, hrest, hnd .nil⟩

end Pattern

end PathRouting
