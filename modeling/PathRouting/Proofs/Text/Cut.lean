import Mathlib.Data.List.Basic
import Mathlib.Data.List.TakeWhile
import PathRouting.Text.Basic

/-! # Cutting at separators

A cut falls at the first separator, and splitting leaves no separator in any piece.  Joined pieces
end as the last of them does.
-/

namespace PathRouting

namespace Text

variable {sep : Char} {t a b p : Text}

theorem forall_bne : (∀ c ∈ t, (c != sep) = true) ↔ sep ∉ t := by
  simp only [bne_iff_ne]
  constructor
  · intro h ht
    exact h sep ht rfl
  · rintro h c hc rfl
    exact h hc

theorem takeWhile_of_notMem (h : sep ∉ t) : t.takeWhile (· != sep) = t :=
  List.takeWhile_eq_self_iff.2 (forall_bne.2 h)

theorem takeWhile_append_sep (h : sep ∉ a) : (a ++ sep :: b).takeWhile (· != sep) = a := by
  rw [List.takeWhile_append_of_pos (forall_bne.2 h)]
  simp

theorem cut?_append (h : sep ∉ a) : cut? sep (a ++ sep :: b) = some (a, b) := by
  rw [cut?, List.dropWhile_append_of_pos (forall_bne.2 h), takeWhile_append_sep h]
  simp

theorem cut?_eq_none : cut? sep t = none ↔ sep ∉ t := by
  constructor
  · intro h ht
    obtain ⟨a, b, rfl, ha⟩ := List.eq_append_cons_of_mem ht
    rw [cut?_append ha] at h
    cases h
  · intro h
    rw [cut?, List.dropWhile_eq_nil_iff.2 (forall_bne.2 h)]

theorem cut?_eq_some : cut? sep t = some (a, b) ↔ t = a ++ sep :: b ∧ sep ∉ a := by
  constructor
  · intro h
    have ht : sep ∈ t := by
      by_contra ht
      rw [cut?_eq_none.2 ht] at h
      cases h
    obtain ⟨a', b', rfl, ha⟩ := List.eq_append_cons_of_mem ht
    rw [cut?_append ha] at h
    cases h
    exact ⟨rfl, ha⟩
  · rintro ⟨rfl, ha⟩
    exact cut?_append ha

theorem cut?_concat {c : Char} (hc : c ≠ sep) :
    cut? sep (t ++ [c]) = (cut? sep t).map fun r => (r.1, r.2 ++ [c]) := by
  cases h : cut? sep t with
  | none =>
    rw [Option.map_none, cut?_eq_none, List.mem_append, List.mem_singleton]
    rintro (ht | rfl)
    · exact cut?_eq_none.1 h ht
    · exact hc rfl
  | some r =>
    obtain ⟨rfl, ha⟩ := cut?_eq_some.1 h
    rw [List.append_assoc, List.cons_append]
    exact cut?_append ha

theorem dropPrefix?_concat {c : Char} (hc : c ∉ p) :
    dropPrefix? (t ++ [c]) p = (dropPrefix? t p).map (· ++ [c]) := by
  induction p generalizing t with
  | nil => simp [dropPrefix?]
  | cons d p ih =>
    rw [List.mem_cons, not_or] at hc
    cases t with
    | nil => simp [dropPrefix?, hc.1]
    | cons e t =>
      rw [List.cons_append, dropPrefix?, dropPrefix?]
      split
      · exact ih hc.2
      · rfl

theorem notMem_of_mem_split (h : p ∈ split sep t) : sep ∉ p := by
  induction t generalizing p with
  | nil =>
    rw [split_nil, List.mem_singleton] at h
    exact h ▸ List.not_mem_nil
  | cons c t ih =>
    rw [split_cons] at h
    split at h
    · rcases List.mem_cons.1 h with rfl | h
      · exact List.not_mem_nil
      · exact ih h
    · rename_i hc
      obtain ⟨q, qs, hq⟩ := List.exists_cons_of_ne_nil (split_ne_nil sep t)
      rw [hq, List.modifyHead_cons] at h
      rcases List.mem_cons.1 h with rfl | h
      · rw [List.mem_cons, not_or]
        exact ⟨Ne.symm hc, ih (hq ▸ List.mem_cons_self)⟩
      · exact ih (hq ▸ List.mem_cons_of_mem _ h)

theorem split_append (sep : Char) (a b : Text) :
    split sep (a ++ sep :: b) = split sep a ++ split sep b := by
  induction a with
  | nil => simp [split_cons]
  | cons c a ih =>
    rw [List.cons_append, split_cons, split_cons, ih]
    split
    · rfl
    · obtain ⟨p, ps, hp⟩ := List.exists_cons_of_ne_nil (split_ne_nil sep a)
      simp [hp]

theorem split_of_notMem (h : sep ∉ t) : split sep t = [t] := by
  induction t with
  | nil => rfl
  | cons c t ih =>
    obtain ⟨hc, ht⟩ := not_or.1 (mt List.mem_cons.2 h)
    rw [split_cons, if_neg (Ne.symm hc), ih ht]
    rfl

theorem join_cons (sep : Char) (p : Text) {ps : List Text} (h : ps ≠ []) :
    join sep (p :: ps) = p ++ sep :: join sep ps := by
  cases ps with
  | nil => exact absurd rfl h
  | cons q ps => rfl

theorem join_split (sep : Char) (t : Text) : join sep (split sep t) = t := by
  induction t with
  | nil => rfl
  | cons c t ih =>
    rw [split_cons]
    split
    · rename_i hc
      rw [join_cons sep [] (split_ne_nil sep t), ih, hc, List.nil_append]
    · obtain ⟨p, ps, hp⟩ := List.exists_cons_of_ne_nil (split_ne_nil sep t)
      rw [hp] at ih ⊢
      rw [List.modifyHead_cons]
      cases ps with
      | nil => exact congrArg (c :: ·) ih
      | cons q ps =>
        rw [join_cons sep _ (List.cons_ne_nil q ps)] at ih ⊢
        exact congrArg (c :: ·) ih

theorem exists_join_concat (sep : Char) (ps : List Text) (p : Text) :
    ∃ front, join sep (ps ++ [p]) = front ++ p := by
  induction ps with
  | nil => exact ⟨[], rfl⟩
  | cons q ps ih =>
    obtain ⟨front, hfront⟩ := ih
    obtain ⟨r, rs, hrs⟩ := List.exists_cons_of_ne_nil (List.concat_ne_nil p ps)
    have hjoin : join sep (q :: r :: rs) = q ++ sep :: join sep (r :: rs) := rfl
    refine ⟨q ++ sep :: front, ?_⟩
    rw [List.cons_append, hrs, hjoin, ← hrs, hfront, List.append_assoc, List.cons_append]

theorem join_eq_nil {ps : List Text} (h : ∀ p ∈ ps, p ≠ []) : join sep ps = [] ↔ ps = [] := by
  rcases ps.eq_nil_or_concat' with rfl | ⟨ps, p, rfl⟩
  · exact iff_of_true rfl rfl
  · obtain ⟨front, hfront⟩ := exists_join_concat sep ps p
    have hp := h p (List.mem_append_right _ (List.mem_singleton_self p))
    rw [hfront]
    exact iff_of_false (fun he => hp (List.append_eq_nil_iff.1 he).2) (by simp)

theorem getLast?_join {ps : List Text} (h : ∀ p ∈ ps, p ≠ [] ∧ sep ∉ p) :
    (join sep ps).getLast? ≠ some sep := by
  rcases ps.eq_nil_or_concat' with rfl | ⟨ps, p, rfl⟩
  · nofun
  · obtain ⟨front, hfront⟩ := exists_join_concat sep ps p
    obtain ⟨hne, hsep⟩ := h p (List.mem_append_right _ (List.mem_singleton_self p))
    rw [hfront, List.getLast?_append_of_ne_nil _ hne]
    exact fun he => hsep (List.mem_of_getLast? he)

end Text

end PathRouting
