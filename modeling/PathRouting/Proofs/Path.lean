import Mathlib.Data.Option.NAry
import PathRouting.Path
import PathRouting.Proofs.Text.Cut

/-! # Segments of paths

A path has segments unless one of its pieces is `..`.  They are the pieces that name something, so
none of them is empty, `.` or `..`, and none has a slash.  A path joined from two has the segments of
both, and the segments of a path are what it is joined from, up to slashes and `.` pieces.
-/

namespace PathRouting

namespace Path

variable {path path' p : Text} {s s' ps : List Text}

theorem segments_eq_none : segments path = none ↔ "..".toList ∈ pieces path := by
  unfold segments isParent
  split <;> simp_all

theorem segments_eq_some : segments path = some s ↔
    "..".toList ∉ pieces path ∧ (pieces path).filter (fun p => !isIdle p) = s := by
  unfold segments isParent
  split <;> simp_all

/-- What a segment of a path cannot be. -/
structure Proper (p : Text) : Prop where
  ne_nil : p ≠ []
  ne_dot : p ≠ ".".toList
  ne_parent : p ≠ "..".toList
  no_slash : '/' ∉ p

theorem proper_of_mem (h : segments path = some s) (hp : p ∈ s) : Proper p := by
  obtain ⟨hparent, rfl⟩ := segments_eq_some.1 h
  obtain ⟨hp, hidle⟩ := List.mem_filter.1 hp
  simp only [isIdle, Bool.not_eq_true', Bool.or_eq_false_iff, beq_eq_false_iff_ne] at hidle
  refine ⟨hidle.1, hidle.2, ?_, Text.notMem_of_mem_split hp⟩
  rintro rfl
  exact hparent hp

theorem segments_append (hs : segments path = some s) (hs' : segments path' = some s') :
    segments (path ++ '/' :: path') = some (s ++ s') := by
  obtain ⟨hparent, rfl⟩ := segments_eq_some.1 hs
  obtain ⟨hparent', rfl⟩ := segments_eq_some.1 hs'
  rw [segments_eq_some, pieces, Text.split_append, List.mem_append, List.filter_append]
  exact ⟨not_or.2 ⟨hparent, hparent'⟩, rfl⟩

theorem segments_append_eq_some : segments (path ++ '/' :: path') = some ps ↔
    ∃ s s', segments path = some s ∧ segments path' = some s' ∧ ps = s ++ s' := by
  constructor
  · intro h
    obtain ⟨hparent, rfl⟩ := segments_eq_some.1 h
    rw [pieces, Text.split_append, List.mem_append, not_or] at hparent
    refine ⟨_, _, segments_eq_some.2 ⟨hparent.1, rfl⟩, segments_eq_some.2 ⟨hparent.2, rfl⟩, ?_⟩
    rw [pieces, Text.split_append, List.filter_append, pieces, pieces]
  · rintro ⟨s, s', hs, hs', rfl⟩
    exact segments_append hs hs'

theorem segments_of_proper (h : Proper p) : segments p = some [p] := by
  have hidle : isIdle p = false := by
    simp only [isIdle, Bool.or_eq_false_iff, beq_eq_false_iff_ne]
    exact ⟨h.ne_nil, h.ne_dot⟩
  rw [segments_eq_some, pieces, Text.split_of_notMem h.no_slash]
  constructor
  · rw [List.mem_singleton]
    exact h.ne_parent.symm
  · simp [hidle]

/-- Segments written after a path, each behind a slash, come after those of the path. -/
theorem segments_append_flatMap (hs : segments path = some s) (hps : ∀ p ∈ ps, Proper p) :
    segments (path ++ ps.flatMap ('/' :: ·)) = some (s ++ ps) := by
  induction ps generalizing path s with
  | nil => simpa using hs
  | cons p ps ih =>
    obtain ⟨hp, hps⟩ := List.forall_mem_cons.1 hps
    have hone := segments_append hs (segments_of_proper hp)
    simpa using ih hone hps

/-! ## Padded paths -/

/-- How segments are written as a path: each but the last before a slash, and any number of slashes
and `.` pieces before, between and after them. -/
inductive Padded : List Text → Text → Prop
  | nil : Padded [] []
  | dot : Padded [] ".".toList
  | last (p : Text) : Padded [p] p
  | slash {s : List Text} {path : Text} (tail : Padded s path) : Padded s ('/' :: path)
  | dot_slash {s : List Text} {path : Text} (tail : Padded s path) : Padded s ('.' :: '/' :: path)
  | segment (p : Text) {s : List Text} {path : Text} (tail : Padded s path) :
      Padded (p :: s) (p ++ '/' :: path)

theorem padded_join (s : List Text) : Padded s (Text.join '/' s) := by
  induction s with
  | nil => exact .nil
  | cons p s ih =>
    cases s with
    | nil => exact .last p
    | cons q s => exact .segment p ih

theorem segments_of_padded (h : Padded s path) (hs : ∀ p ∈ s, Proper p) :
    segments path = some s := by
  induction h with
  | nil => rfl
  | dot => rfl
  | last p => exact segments_of_proper (hs p (List.mem_singleton_self p))
  | slash _ ih =>
    have hnone : segments [] = some [] := rfl
    exact segments_append hnone (ih hs)
  | dot_slash _ ih =>
    have hnone : segments ".".toList = some [] := rfl
    exact segments_append hnone (ih hs)
  | segment p _ ih =>
    obtain ⟨hp, hs⟩ := List.forall_mem_cons.1 hs
    exact segments_append (segments_of_proper hp) (ih hs)

theorem segments_of_notMem (h : '/' ∉ path) (hs : segments path = some s) :
    s = [path] ∨ s = [] ∧ (path = [] ∨ path = ".".toList) := by
  obtain ⟨-, rfl⟩ := segments_eq_some.1 hs
  rw [pieces, Text.split_of_notMem h]
  cases hidle : isIdle path with
  | false => exact .inl (by simp [hidle])
  | true =>
    refine .inr ⟨by simp [hidle], ?_⟩
    simpa [isIdle] using hidle

theorem padded_of_segments (h : segments path = some s) : Padded s path := by
  -- on the length: what stands before the first slash is a segment or padding
  induction hn : path.length using Nat.strong_induction_on generalizing path s with
  | _ n ih =>
    subst hn
    by_cases hslash : '/' ∈ path
    · obtain ⟨a, b, rfl, ha⟩ := List.eq_append_cons_of_mem hslash
      obtain ⟨s₁, s₂, h₁, h₂, rfl⟩ := segments_append_eq_some.1 h
      have htail : Padded s₂ b := ih b.length (by simp; omega) h₂ rfl
      rcases segments_of_notMem ha h₁ with rfl | ⟨rfl, rfl | rfl⟩
      · exact .segment a htail
      · exact .slash htail
      · exact .dot_slash htail
    · rcases segments_of_notMem hslash h with rfl | ⟨rfl, rfl | rfl⟩
      · exact .last path
      · exact .nil
      · exact .dot

theorem segments_join_slash (p q : Text) :
    segments (p ++ '/' :: q) = Option.map₂ (· ++ ·) (segments p) (segments q) := by
  ext ps
  rw [segments_append_eq_some, Option.map₂_eq_some_iff]
  exact exists₂_congr fun s s' => and_congr_right' (and_congr_right' eq_comm)

/-- Joining two paths by a slash joins their segments.  Proper segments, joined by slashes with any
padding, are read back, and every path with segments is written so from proper ones. -/
theorem segments_of_joined (p q : Text) (s : List Text) :
    segments (p ++ '/' :: q) = Option.map₂ (· ++ ·) (segments p) (segments q) ∧
    ((∀ piece ∈ s, Proper piece) → segments (Text.join '/' s) = some s ∧
      ∀ path, Padded s path → segments path = some s) ∧
    ∀ path, segments path = some s → (∀ piece ∈ s, Proper piece) ∧ Padded s path := by
  refine ⟨segments_join_slash p q, fun hs => ?_, fun path h => ?_⟩
  · exact ⟨segments_of_padded (padded_join s) hs, fun path h => segments_of_padded h hs⟩
  · exact ⟨fun piece hpiece => proper_of_mem h hpiece, padded_of_segments h⟩

/-- Slashes and `.` pieces around the segments of a path leave no trace. -/
theorem segments_around_archive :
    (∀ piece ∈ ["été".toList, "07".toList], Proper piece) ∧
      Padded ["été".toList, "07".toList] "//été/./07/.".toList ∧
      segments "//été/./07/.".toList = some ["été".toList, "07".toList] := by
  have hproper : ∀ piece ∈ ["été".toList, "07".toList], Proper piece := by
    simp only [List.forall_mem_cons]
    refine ⟨⟨?_, ?_, ?_, ?_⟩, ⟨?_, ?_, ?_, ?_⟩, nofun⟩ <;> decide
  have hpadded : Padded ["été".toList, "07".toList] "//été/./07/.".toList :=
    .slash (.slash (.segment "été".toList (.dot_slash (.segment "07".toList .dot))))
  exact ⟨hproper, hpadded, ((segments_of_joined [] [] _).2.1 hproper).2 _ hpadded⟩

end Path

end PathRouting
