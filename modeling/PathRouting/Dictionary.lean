import PathRouting.Text.Basic

/-! # Dictionaries

A dictionary maps texts to values; its entries stand in ascending order of their keys, so equal
contents are equal dictionaries.  Keys compare by code points.
-/

namespace PathRouting

namespace Dictionary

variable {α β : Type}

/-- Put an entry in its place, over one of the same key. -/
def place (k : Text) (a : α) : List (Text × α) → List (Text × α)
  | [] => [(k, a)]
  | (k', b) :: es =>
    if k < k' then (k, a) :: (k', b) :: es
    else if k = k' then (k, a) :: es
    else (k', b) :: place k a es

theorem mem_place {k : Text} {a : α} {es : List (Text × α)} {e : Text × α}
    (h : e ∈ place k a es) : e = (k, a) ∨ e ∈ es := by
  induction es with
  | nil => exact .inl (by simpa [place] using h)
  | cons e' es ih =>
    obtain ⟨k', b⟩ := e'
    simp only [place] at h
    split at h
    · simpa using h
    · split at h
      · simp only [List.mem_cons] at h ⊢
        exact h.imp_right .inr
      · simp only [List.mem_cons] at h ⊢
        rcases h with h | h
        · exact .inr (.inl h)
        · exact (ih h).imp_right .inr

theorem lt_of_not_lt_of_ne {k k' : Text} (h : ¬k < k') (hn : k ≠ k') : k' < k :=
  (List.le_iff_lt_or_eq.1 (List.not_lt.1 h)).resolve_right (Ne.symm hn)

theorem pairwise_place {k : Text} {a : α} {es : List (Text × α)}
    (h : es.Pairwise (·.1 < ·.1)) : (place k a es).Pairwise (·.1 < ·.1) := by
  induction es with
  | nil => simp [place]
  | cons e es ih =>
    obtain ⟨k', b⟩ := e
    have hes := List.pairwise_cons.1 h
    simp only [place]
    split
    · rename_i hk
      refine List.pairwise_cons.2 ⟨fun e he => ?_, h⟩
      rcases List.mem_cons.1 he with rfl | he
      · exact hk
      · exact List.lt_trans hk (hes.1 e he)
    · split
      · rename_i hk
        subst hk
        exact List.pairwise_cons.2 ⟨hes.1, hes.2⟩
      · rename_i hk hn
        refine List.pairwise_cons.2 ⟨fun e he => ?_, ih hes.2⟩
        rcases mem_place he with rfl | he
        · exact lt_of_not_lt_of_ne hk hn
        · exact hes.1 e he

end Dictionary

structure Dictionary (α : Type) where
  entries : List (Text × α)
  ascending : entries.Pairwise (·.1 < ·.1)

namespace Dictionary

variable {α β : Type}

@[ext] theorem ext {d e : Dictionary α} (h : d.entries = e.entries) : d = e := by
  cases d; cases e; cases h; rfl

instance [DecidableEq α] : DecidableEq (Dictionary α) := fun d e =>
  decidable_of_iff (d.entries = e.entries) ⟨ext, fun h => h ▸ rfl⟩

def empty : Dictionary α := ⟨[], .nil⟩

instance : EmptyCollection (Dictionary α) := ⟨empty⟩

instance : Inhabited (Dictionary α) := ⟨empty⟩

def insert (d : Dictionary α) (k : Text) (a : α) : Dictionary α :=
  ⟨place k a d.entries, pairwise_place d.ascending⟩

def get? (d : Dictionary α) (k : Text) : Option α := d.entries.lookup k

def contains (d : Dictionary α) (k : Text) : Bool := (d.get? k).isSome

def keys (d : Dictionary α) : List Text := d.entries.map (·.1)

def size (d : Dictionary α) : Nat := d.entries.length

/-- Later entries replace earlier ones of the same key. -/
def ofList (es : List (Text × α)) : Dictionary α :=
  es.foldl (fun d e => d.insert e.1 e.2) empty

def map (f : α → β) (d : Dictionary α) : Dictionary β :=
  ⟨d.entries.map fun e => (e.1, f e.2), List.pairwise_map.2 d.ascending⟩

theorem lookup_cons_eq (k k' : Text) (a : α) (es : List (Text × α)) :
    ((k, a) :: es).lookup k' = if k' = k then some a else es.lookup k' := by
  rw [List.lookup_cons]
  by_cases h : k' = k
  · simp [h]
  · simp [h, beq_eq_false_iff_ne.2 h]

theorem lookup_place (es : List (Text × α)) (k k' : Text) (a : α) :
    (place k a es).lookup k' = if k' = k then some a else es.lookup k' := by
  induction es with
  | nil => simp only [place, lookup_cons_eq]
  | cons e es ih =>
    obtain ⟨k₁, b⟩ := e
    simp only [place]
    split
    · rw [lookup_cons_eq]
    · split
      · rename_i hk
        subst hk
        simp only [lookup_cons_eq]
        split <;> rfl
      · rename_i hn
        simp only [lookup_cons_eq, ih]
        by_cases h : k' = k₁
        · subst h
          simp [Ne.symm hn]
        · simp [h]

@[simp] theorem get?_empty (k : Text) : (empty : Dictionary α).get? k = none := rfl

@[simp] theorem get?_insert (d : Dictionary α) (k k' : Text) (a : α) :
    (d.insert k a).get? k' = if k' = k then some a else d.get? k' :=
  lookup_place d.entries k k' a

end Dictionary

end PathRouting
