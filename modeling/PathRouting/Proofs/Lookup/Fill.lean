import PathRouting.Proofs.Lookup.Fit

/-! # Filling in parameters

A segment with its slots replaced by the values bound to them is the text it took, whatever the
validators are.  The texts that validators return count by their length alone, so each value is cut
off the path itself.
-/

namespace PathRouting

/-- The text a piece stands for, given the parameters. -/
def Piece.fill? (params : Dictionary Text) : Piece → Option Text
  | .literal text => some text
  | .slot name _ => params.get? name

namespace Pattern

def fill? (params : Dictionary Text) : List Piece → Option Text
  | [] => some []
  | p :: ps => do
    let text ← p.fill? params
    let more ← fill? params ps
    pure (text ++ more)

end Pattern

def Segment.fill? (params : Dictionary Text) : Segment → Option Text
  | .plain text => some text
  | .slotted _ ps => Pattern.fill? params ps
  | .rest => params.get? restName

/-- The pieces, with the values bound to their slots, make up a text. -/
inductive Fit.Filled : List Piece → Text → List Binding → Prop
  | nil : Filled [] [] []
  | literal {ps : List Piece} {t : Text} {bs : List Binding} (text : Text) (tail : Filled ps t bs) :
      Filled (.literal text :: ps) (text ++ t) bs
  | slot {ps : List Piece} {t value : Text} {bs : List Binding} (name : Text) (rule : Rule)
      (ne_nil : value ≠ []) (tail : Filled ps t bs) :
      Filled (.slot name rule :: ps) (value ++ t) ((name, value) :: bs)

namespace Fit

variable {registry : Registry} {ps : List Piece} {t : Text} {bs : List Binding}
  {params : Dictionary Text}

theorem filled_of_fits (h : pieces registry ps t [] = (.fits, bs)) : Filled ps t bs := by
  induction ps generalizing t bs with
  | nil =>
    obtain ⟨rfl, rfl⟩ := fits_nil_iff.1 h
    exact .nil
  | cons p ps ih =>
    cases p with
    | literal text =>
      obtain ⟨t', rfl, hfits⟩ := fits_literal_iff.1 h
      exact .literal text (ih hfits)
    | slot name rule =>
      obtain ⟨value, t', bs', rfl, -, hne, rfl, hfits⟩ := fits_slot_iff.1 h
      exact .slot name rule hne (ih hfits)

theorem Filled.names (h : Filled ps t bs) : bs.map (·.1) = Pattern.slotNames ps := by
  induction h with
  | nil => rfl
  | literal _ _ ih => exact ih
  | slot name rule _ _ ih => rw [List.map_cons, ih, Pattern.slotNames_slot]

theorem Filled.ne_nil (h : Filled ps t bs) : ∀ b ∈ bs, b.2 ≠ [] := by
  induction h with
  | nil => exact nofun
  | literal _ _ ih => exact ih
  | slot _ _ ne_nil _ ih => exact List.forall_mem_cons.2 ⟨ne_nil, ih⟩

theorem Filled.subset (h : Filled ps t bs) : ∀ b ∈ bs, b.2 ⊆ t := by
  induction h with
  | nil => exact nofun
  | literal _ _ ih =>
    intro b hb
    exact List.subset_append_of_subset_right _ (ih b hb)
  | slot _ _ _ _ ih =>
    refine List.forall_mem_cons.2 ⟨List.subset_append_left _ _, fun b hb => ?_⟩
    exact List.subset_append_of_subset_right _ (ih b hb)

theorem Filled.fill (h : Filled ps t bs) (hbs : ∀ b ∈ bs, params.get? b.1 = some b.2) :
    Pattern.fill? params ps = some t := by
  induction h with
  | nil => rfl
  | literal text _ ih => simp [Pattern.fill?, Piece.fill?, ih hbs]
  | slot name rule _ _ ih =>
    obtain ⟨hb, hbs⟩ := List.forall_mem_cons.1 hbs
    simp [Pattern.fill?, Piece.fill?, hb, ih hbs]

end Fit

namespace Routes

variable {registry : Registry} {s : Segment} {t : Text} {ss : List Segment} {ts : List Text}
  {bs : List Binding} {params : Dictionary Text}

theorem Takes.names (h : Takes registry s t bs) : bs.map (·.1) = s.names := by
  cases h with
  | plain => rfl
  | slotted fits => exact (Fit.filled_of_fits fits).names

theorem Takes.ne_nil (h : Takes registry s t bs) : ∀ b ∈ bs, b.2 ≠ [] := by
  cases h with
  | plain => exact nofun
  | slotted fits => exact (Fit.filled_of_fits fits).ne_nil

theorem Takes.subset (h : Takes registry s t bs) : ∀ b ∈ bs, b.2 ⊆ t := by
  cases h with
  | plain => exact nofun
  | slotted fits => exact (Fit.filled_of_fits fits).subset

theorem Takes.whole {name : Text} {rule : Rule} (h : Takes registry s t bs)
    (hs : s.pieces = [.slot name rule]) : bs = [(name, t)] := by
  cases h with
  | plain => cases hs
  | slotted fits =>
    obtain rfl : _ = [Piece.slot name rule] := hs
    obtain _ | _ | ⟨_, _, _, tail⟩ := Fit.filled_of_fits fits
    cases tail
    rw [List.append_nil]

theorem Takes.fill (h : Takes registry s t bs) (hbs : ∀ b ∈ bs, params.get? b.1 = some b.2) :
    s.fill? params = some t := by
  cases h with
  | plain => rfl
  | slotted fits => exact (Fit.filled_of_fits fits).fill hbs

theorem TakesAll.takes_of_mem (h : TakesAll registry ss ts bs) (hs : s ∈ ss) :
    ∃ t ∈ ts, ∃ bs', bs' ⊆ bs ∧ Takes registry s t bs' := by
  induction h with
  | nil => cases hs
  | cons head _ ih =>
    rcases List.mem_cons.1 hs with rfl | hs
    · exact ⟨_, List.mem_cons_self, _, List.subset_append_left _ _, head⟩
    · obtain ⟨t, ht, bs', hbs, htakes⟩ := ih hs
      exact ⟨t, List.mem_cons_of_mem _ ht, bs', List.subset_append_of_subset_right _ hbs, htakes⟩

theorem TakesAll.exists_takes (h : TakesAll registry ss ts bs) {b : Binding} (hb : b ∈ bs) :
    ∃ s ∈ ss, ∃ t ∈ ts, ∃ bs', b ∈ bs' ∧ Takes registry s t bs' := by
  induction h with
  | nil => cases hb
  | cons head _ ih =>
    rcases List.mem_append.1 hb with hb | hb
    · exact ⟨_, List.mem_cons_self, _, List.mem_cons_self, _, hb, head⟩
    · obtain ⟨s, hs, t, ht, htakes⟩ := ih hb
      exact ⟨s, List.mem_cons_of_mem _ hs, t, List.mem_cons_of_mem _ ht, htakes⟩

theorem TakesAll.names (h : TakesAll registry ss ts bs) :
    bs.map (·.1) = ss.flatMap Segment.names := by
  induction h with
  | nil => rfl
  | cons head _ ih => rw [List.map_append, head.names, ih, List.flatMap_cons]

theorem TakesAll.ne_nil (h : TakesAll registry ss ts bs) : ∀ b ∈ bs, b.2 ≠ [] := by
  induction h with
  | nil => exact nofun
  | cons head _ ih => exact List.forall_mem_append.2 ⟨head.ne_nil, ih⟩

theorem TakesAll.fill (h : TakesAll registry ss ts bs)
    (hbs : ∀ b ∈ bs, params.get? b.1 = some b.2) :
    ss.map (Segment.fill? params) = ts.map some := by
  induction h with
  | nil => rfl
  | cons head _ ih =>
    obtain ⟨hbs, hbs'⟩ := List.forall_mem_append.1 hbs
    rw [List.map_cons, List.map_cons, head.fill hbs, ih hbs']

end Routes

end PathRouting
