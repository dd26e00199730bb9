import Mathlib.Data.List.Induction
import Mathlib.Data.List.Nodup
import PathRouting.Dictionary

/-! # Dictionaries of distinct keys

A dictionary made of entries with distinct keys holds each of them and nothing else.  The order in
which they come makes no difference.
-/

namespace PathRouting

namespace Dictionary

variable {α β : Type} {d : Dictionary α} {es : List (Text × α)} {k : Text}

theorem mem_keys : k ∈ d.keys ↔ (d.get? k).isSome = true := by
  unfold keys get?
  rw [List.lookup_isSome_iff, List.mem_map]
  constructor
  · rintro ⟨e, he, rfl⟩
    exact ⟨e, he, beq_self_eq_true _⟩
  · rintro ⟨e, he, hk⟩
    exact ⟨e, he, (eq_of_beq hk).symm⟩

theorem place_perm {a : α} (h : k ∉ es.map (·.1)) : (place k a es).Perm ((k, a) :: es) := by
  induction es with
  | nil => exact .refl _
  | cons e es ih =>
    obtain ⟨k', b⟩ := e
    obtain ⟨hne, hes⟩ := not_or.1 (mt List.mem_cons.2 h)
    rw [place]
    split
    · exact .refl _
    · exact ((ih hes).cons (k', b)).trans (.swap ..)

@[simp] theorem ofList_nil : ofList ([] : List (Text × α)) = empty := rfl

theorem ofList_concat (es : List (Text × α)) (e : Text × α) :
    ofList (es ++ [e]) = (ofList es).insert e.1 e.2 := by
  simp [ofList, List.foldl_append]

theorem mem_keys_ofList : k ∈ (ofList es).keys ↔ k ∈ es.map (·.1) := by
  induction es using List.reverseRecOn with
  | nil => simp [keys, empty]
  | append_singleton es e ih =>
    rw [mem_keys] at ih ⊢
    rw [ofList_concat, get?_insert, List.map_append, List.mem_append, ← ih]
    by_cases hk : k = e.1 <;> simp [hk]

theorem pairwise_keys (d : Dictionary α) : d.keys.Pairwise (· < ·) := List.pairwise_map.2 d.ascending

theorem nodup_keys (d : Dictionary α) : d.keys.Nodup := by
  apply d.pairwise_keys.imp
  rintro k _ hlt rfl
  exact List.lt_irrefl k hlt

theorem entries_ofList_perm (h : (es.map (·.1)).Nodup) : (ofList es).entries.Perm es := by
  induction es using List.reverseRecOn with
  | nil => exact .refl _
  | append_singleton es e ih =>
    rw [List.map_append, List.map_singleton] at h
    obtain ⟨hes, -, hdisjoint⟩ := List.nodup_append.1 h
    have hentries := ih hes
    have hnew : e.1 ∉ (ofList es).entries.map (·.1) := fun he =>
      hdisjoint _ ((hentries.map _).mem_iff.1 he) _ (List.mem_singleton_self _) rfl
    rw [ofList_concat]
    exact (place_perm hnew).trans
      ((hentries.cons _).trans (List.perm_append_singleton _ _).symm)

theorem keys_ofList_perm (h : (es.map (·.1)).Nodup) : (ofList es).keys.Perm (es.map (·.1)) :=
  (entries_ofList_perm h).map _

/-- The entries of a dictionary make this dictionary, in any order. -/
theorem ofList_of_perm (h : es.Perm d.entries) : ofList es = d := by
  have hnodup : (es.map (·.1)).Nodup := (h.map _).nodup_iff.2 d.nodup_keys
  have hperm : (ofList es).entries.Perm d.entries := (entries_ofList_perm hnodup).trans h
  apply ext
  -- no two lists of the same entries are both ascending
  exact hperm.eq_of_pairwise (fun _ _ _ _ hlt hgt => absurd hgt (List.lt_asymm hlt))
    (ofList es).ascending d.ascending

theorem get?_ofList_of_mem (h : (es.map (·.1)).Nodup) {e : Text × α} (he : e ∈ es) :
    (ofList es).get? e.1 = some e.2 := by
  induction es using List.reverseRecOn with
  | nil => cases he
  | append_singleton es e' ih =>
    rw [List.map_append, List.map_singleton] at h
    obtain ⟨hes, -, hdisjoint⟩ := List.nodup_append.1 h
    rw [ofList_concat, get?_insert]
    rcases List.mem_append.1 he with he | he
    · have hne : e.1 ≠ e'.1 := hdisjoint _ (List.mem_map_of_mem he) _ (List.mem_singleton_self _)
      rw [if_neg hne, ih hes he]
    · rw [List.mem_singleton.1 he, if_pos rfl]

theorem mem_of_get?_ofList {a : α} (h : (ofList es).get? k = some a) : (k, a) ∈ es := by
  induction es using List.reverseRecOn with
  | nil => cases h
  | append_singleton es e ih =>
    rw [ofList_concat, get?_insert] at h
    split at h
    · rename_i hk
      cases h
      exact List.mem_append_right _ (List.mem_singleton.2 (Prod.ext hk rfl))
    · exact List.mem_append_left _ (ih h)

theorem entries_ofList (h : es.Pairwise (·.1 < ·.1)) : (ofList es).entries = es :=
  congrArg entries (ofList_of_perm (d := ⟨es, h⟩) (.refl _))

def rebuild (f : Text → α → β) (d : Dictionary α) : Dictionary β :=
  ofList (d.entries.map fun e => (e.1, f e.1 e.2))

theorem entries_rebuild (f : Text → α → β) (d : Dictionary α) :
    (d.rebuild f).entries = d.entries.map fun e => (e.1, f e.1 e.2) :=
  entries_ofList (List.pairwise_map.2 d.ascending)

theorem rebuild_eq_map (f : α → β) (d : Dictionary α) : d.rebuild (fun _ => f) = d.map f :=
  ext (entries_rebuild ..)

@[simp] theorem get?_rebuild (f : Text → α → β) (d : Dictionary α) (k : Text) :
    (d.rebuild f).get? k = (d.get? k).map (f k) := by
  rw [get?, entries_rebuild, get?]
  induction d.entries with
  | nil => rfl
  | cons e es ih =>
    obtain ⟨k', a⟩ := e
    rw [List.map_cons, lookup_cons_eq, lookup_cons_eq, ih]
    split
    · rename_i hk
      rw [hk]
      rfl
    · rfl

end Dictionary

end PathRouting
