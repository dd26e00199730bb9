import PathRouting.Proofs.Lookup.Accepts
import PathRouting.Proofs.Text.Offset

/-! # Fitting segments

What a segment binds does not depend on what was bound before: the new bindings come after the old
ones, however the segment fares.  Of the validators it depends only on what they take, and taking
nothing is as good as being missing.
-/

namespace PathRouting

/-- What a rule takes from the front of a text; nothing where its validator is missing. -/
def Registry.taken (registry : Registry) (rule : Rule) (t : Text) : Text :=
  (registry.get? rule.validator).elim [] fun validator => validator rule t

theorem Registry.get?_of_taken {registry : Registry} {rule : Rule} {t : Text}
    (h : registry.taken rule t ≠ []) :
    ∃ validator, registry.get? rule.validator = some validator := by
  cases hv : registry.get? rule.validator with
  | none => exact absurd (by rw [Registry.taken, hv]; rfl) h
  | some validator => exact ⟨validator, rfl⟩

namespace Fit

theorem pieces_append (registry : Registry) (ps : List Piece) (t : Text) (bs : List Binding) :
    pieces registry ps t bs =
      ((pieces registry ps t []).1, bs ++ (pieces registry ps t []).2) := by
  induction ps generalizing t bs with
  | nil => simp [pieces]
  | cons p ps ih =>
    cases p with
    | literal l =>
      simp only [pieces]
      cases Text.dropPrefix? t l with
      | none => simp
      | some t => exact ih t bs
    | slot name rule =>
      simp only [pieces]
      cases registry.get? rule.validator with
      | none => simp
      | some validator =>
        dsimp only
        cases Text.cutBytes? t (Text.byteLength (validator rule t)) with
        | none => simp
        | some cut =>
          dsimp only
          split
          · simp
          · rw [ih cut.2 (bs ++ _), ih cut.2 ([] ++ _)]
            simp

theorem segment_append (registry : Registry) (s : Segment) (t : Text) (bs : List Binding) :
    segment registry s t bs =
      ((segment registry s t []).1, bs ++ (segment registry s t []).2) := by
  cases s with
  | plain text => simp [segment]
  | slotted raw ps => exact pieces_append registry ps t bs
  | rest => simp [segment]

theorem fits_nil_iff {registry : Registry} {t : Text} {bs : List Binding} :
    pieces registry [] t [] = (.fits, bs) ↔ t = [] ∧ bs = [] := by
  rw [pieces]
  split <;> simp_all [eq_comm]

theorem fits_literal_iff {registry : Registry} {l t : Text} {ps : List Piece}
    {bs : List Binding} : pieces registry (.literal l :: ps) t [] = (.fits, bs) ↔
      ∃ t', t = l ++ t' ∧ pieces registry ps t' [] = (.fits, bs) := by
  rw [pieces]
  cases hdrop : Text.dropPrefix? t l with
  | none =>
    refine iff_of_false nofun ?_
    rintro ⟨t', rfl, -⟩
    rw [Text.dropPrefix?_eq_some.2 rfl] at hdrop
    cases hdrop
  | some t' =>
    obtain rfl := Text.dropPrefix?_eq_some.1 hdrop
    simp

theorem fits_slot_iff {registry : Registry} {name t : Text} {rule : Rule} {ps : List Piece}
    {bs : List Binding} : pieces registry (.slot name rule :: ps) t [] = (.fits, bs) ↔
      ∃ value t' bs', t = value ++ t' ∧
        Text.byteLength value = Text.byteLength (registry.taken rule t) ∧ value ≠ [] ∧
        bs = (name, value) :: bs' ∧ pieces registry ps t' [] = (.fits, bs') := by
  rw [pieces, Registry.taken]
  cases registry.get? rule.validator with
  | none =>
    refine iff_of_false nofun ?_
    rintro ⟨value, t', bs', -, hlen, hne, -⟩
    exact hne (Text.byteLength_eq_zero.1 hlen)
  | some validator =>
    dsimp only [Option.elim_some]
    cases hcut : Text.cutBytes? t (Text.byteLength (validator rule t)) with
    | none =>
      refine iff_of_false nofun ?_
      rintro ⟨value, t', bs', ht, hlen, -⟩
      rw [Text.cutBytes?_eq_some.2 ⟨ht, hlen⟩] at hcut
      cases hcut
    | some cut =>
      obtain ⟨value, t'⟩ := cut
      dsimp only
      constructor
      · intro h
        split at h
        · cases h
        · rename_i hne
          rw [pieces_append, List.nil_append] at h
          obtain ⟨hfits, rfl⟩ := Prod.mk.inj h
          obtain ⟨ht, hlen⟩ := Text.cutBytes?_eq_some.1 hcut
          exact ⟨value, t', _, ht, hlen, hne, rfl, Prod.ext hfits rfl⟩
      · rintro ⟨value', t'', bs', ht, hlen, hne, rfl, hfits⟩
        rw [Text.cutBytes?_eq_some.2 ⟨ht, hlen⟩] at hcut
        cases hcut
        rw [if_neg hne, pieces_append, hfits]
        rfl

theorem fits_of_taken {registry registry' : Registry} {ps : List Piece} {t : Text}
    {bs : List Binding} (h : pieces registry ps t [] = (.fits, bs))
    (hps : ∀ slot ∈ ps.filterMap Piece.slot?, registry.taken slot.2 = registry'.taken slot.2) :
    pieces registry' ps t [] = (.fits, bs) := by
  induction ps generalizing t bs with
  | nil => exact h
  | cons p ps ih =>
    cases p with
    | literal l =>
      obtain ⟨t', rfl, hfits⟩ := fits_literal_iff.1 h
      exact fits_literal_iff.2 ⟨t', rfl, ih hfits hps⟩
    | slot name rule =>
      obtain ⟨hrule, hps⟩ := List.forall_mem_cons.1 hps
      obtain ⟨value, t', bs', ht, hlen, hne, rfl, hfits⟩ := fits_slot_iff.1 h
      rw [hrule] at hlen
      exact fits_slot_iff.2 ⟨value, t', bs', ht, hlen, hne, rfl, ih hfits hps⟩

theorem get?_of_fits {registry : Registry} {ps : List Piece} {t : Text} {bs : List Binding}
    (h : pieces registry ps t [] = (.fits, bs)) :
    ∀ slot ∈ ps.filterMap Piece.slot?,
      ∃ validator, registry.get? slot.2.validator = some validator := by
  induction ps generalizing t bs with
  | nil => exact nofun
  | cons p ps ih =>
    cases p with
    | literal l =>
      obtain ⟨t', -, hfits⟩ := fits_literal_iff.1 h
      exact ih hfits
    | slot name rule =>
      obtain ⟨value, t', bs', -, hlen, hne, -, hfits⟩ := fits_slot_iff.1 h
      have htaken : registry.taken rule t ≠ [] := by
        intro he
        rw [he] at hlen
        exact hne (Text.byteLength_eq_zero.1 hlen)
      exact List.forall_mem_cons.2 ⟨Registry.get?_of_taken htaken, ih hfits⟩

theorem takes_iff {registry : Registry} {s : Segment} {t : Text} {bs : List Binding} :
    Routes.Takes registry s t bs ↔ segment registry s t [] = (.fits, bs) := by
  constructor
  · intro h
    cases h with
    | plain => simp [segment]
    | slotted fits => exact fits
  · intro h
    cases s with
    | plain text =>
      by_cases he : text = t
      · obtain rfl : bs = [] := by simpa [segment, he] using h
        exact he ▸ .plain text
      · simp [segment, he] at h
    | slotted raw ps => exact .slotted h
    | rest => simp [segment] at h

end Fit

end PathRouting
