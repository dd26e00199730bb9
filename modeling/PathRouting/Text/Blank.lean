import PathRouting.Text.Basic

/-! # White space

The characters with the white-space property, and texts without them at either end.
-/

namespace PathRouting.Text

def blankRanges : List (Nat × Nat) :=
  [(0x9, 0xd), (0x20, 0x20), (0x85, 0x85), (0xa0, 0xa0), (0x1680, 0x1680), (0x2000, 0x200a),
   (0x2028, 0x2029), (0x202f, 0x202f), (0x205f, 0x205f), (0x3000, 0x3000)]

def isBlank (c : Char) : Bool := isIn blankRanges c

def trim (t : Text) : Text := ((t.dropWhile isBlank).reverse.dropWhile isBlank).reverse

variable {before t after : Text}

theorem dropWhile_blanks (hbefore : ∀ c ∈ before, isBlank c = true)
    (ht : ∀ c ∈ t, isBlank c = false) (hne : t ≠ []) :
    (before ++ (t ++ after)).dropWhile isBlank = t ++ after := by
  rw [List.dropWhile_append_of_pos hbefore]
  cases t with
  | nil => exact absurd rfl hne
  | cons c t => exact List.dropWhile_cons_of_neg (by simp [ht])

theorem trim_append (hbefore : ∀ c ∈ before, isBlank c = true)
    (ht : ∀ c ∈ t, isBlank c = false) (hne : t ≠ []) (hafter : ∀ c ∈ after, isBlank c = true) :
    trim (before ++ t ++ after) = t := by
  have hback : (after.reverse ++ (t.reverse ++ [])).dropWhile isBlank = t.reverse ++ [] :=
    dropWhile_blanks (by simpa using hafter) (by simpa using ht) (by simpa using hne)
  rw [List.append_nil] at hback
  rw [trim, List.append_assoc, dropWhile_blanks hbefore ht hne, List.reverse_append, hback,
    List.reverse_reverse]

theorem eq_append_trim (t : Text) : ∃ before after, t = before ++ trim t ++ after ∧
    (∀ c ∈ before, isBlank c = true) ∧ ∀ c ∈ after, isBlank c = true := by
  have hblank (s : Text) : ∀ c ∈ s.takeWhile isBlank, isBlank c = true :=
    List.all_eq_true.1 List.all_takeWhile
  let back := (t.dropWhile isBlank).reverse
  refine ⟨t.takeWhile isBlank, (back.takeWhile isBlank).reverse, ?_, hblank t, ?_⟩
  · rw [trim, List.append_assoc, ← List.reverse_append, List.takeWhile_append_dropWhile,
      List.reverse_reverse, List.takeWhile_append_dropWhile]
  · simpa using hblank back

end PathRouting.Text
