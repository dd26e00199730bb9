import PathRouting.Proofs.Text.Bytes
import PathRouting.Proofs.Text.Offset
import PathRouting.Validator.Expression

/-! # Validators by offset

The built-in validators count bytes and take a slice of the text up to that count, and those from
expressions take one up to the end of the match.  The slices are always there, and they are what the
validators return.
-/

namespace PathRouting

/-- A validator that cuts its answer out of the text, absent if the slice is not there. -/
abbrev Slicer := Rule → Text → Option Text

namespace Validator

open Text

variable {accepts : Char → Bool} {rule : Rule} {t : Text}

/-! ## Runs of bytes -/

def digitsByOffset : Slicer := fun rule t =>
  let n := (((bytes t).take rule.most).takeWhile (acceptsByte Char.isDigit)).length
  if n = 0 ∨ n < rule.least then some [] else sliceTo? t n

def runByOffset (accepts : Char → Bool) : Slicer := fun rule t =>
  let n := ((bytes t).takeWhile (acceptsByte accepts)).length
  if n != 0 && rule.admits n then sliceTo? t n else some []

def wordByOffset : Slicer := runByOffset isAsciiWord

def actionByOffset : Slicer := runByOffset fun c => isAsciiWord c || c == '-'

theorem sliceTo?_of_isPrefix {s : Text} (h : s <+: t) : sliceTo? t (byteLength s) = some s := by
  obtain ⟨back, rfl⟩ := h
  exact sliceTo?_eq_some.2 ⟨back, rfl, rfl⟩

theorem toNat_lt_of_isDigit {c : Char} (h : c.isDigit = true) : c.toNat < 128 :=
  Nat.lt_of_le_of_lt (Char.isDigit_iff_toNat.1 h).2 (by decide)

theorem toNat_lt_of_isAsciiWord {c : Char} (h : isAsciiWord c = true) : c.toNat < 128 := by
  rcases Bool.or_eq_true_iff.1 h with halnum | hline
  · rcases Bool.or_eq_true_iff.1 halnum with halpha | hdigit
    · rcases Bool.or_eq_true_iff.1 halpha with hupper | hlower
      · have hle := (of_decide_eq_true hupper).2
        exact Nat.lt_of_le_of_lt (UInt32.le_iff_toNat_le.1 hle) (by decide)
      · have hle := of_decide_eq_true (Bool.and_eq_true_iff.1 hlower).2
        exact Nat.lt_of_le_of_lt (UInt32.le_iff_toNat_le.1 hle) (by decide)
    · exact toNat_lt_of_isDigit hdigit
  · rw [beq_iff_eq.1 hline]
    decide

theorem byteLength_of_run (h : ∀ c, accepts c = true → c.toNat < 128) {s : Text}
    (hs : s <+: t.takeWhile accepts) : byteLength s = s.length := by
  apply byteLength_eq_length
  intro c hc
  have hall := List.all_eq_true.1 (List.all_takeWhile (l := t) (p := accepts))
  exact h c (hall c (hs.subset hc))

theorem sliceTo?_of_run (h : ∀ c, accepts c = true → c.toNat < 128) {s : Text}
    (hs : s <+: t.takeWhile accepts) : sliceTo? t s.length = some s := by
  rw [← byteLength_of_run h hs]
  exact sliceTo?_of_isPrefix (hs.trans (List.takeWhile_prefix accepts))

theorem length_takeWhile_bytes (h : ∀ c, accepts c = true → c.toNat < 128) (t : Text) :
    ((bytes t).takeWhile (acceptsByte accepts)).length = (t.takeWhile accepts).length := by
  rw [takeWhile_bytes h, length_bytes, byteLength_of_run h (List.prefix_refl _)]

theorem runByOffset_eq (h : ∀ c, accepts c = true → c.toNat < 128) (rule : Rule) (t : Text) :
    runByOffset accepts rule t = some (run accepts rule t) := by
  have hslice := sliceTo?_of_run h (List.prefix_refl (t.takeWhile accepts))
  unfold runByOffset run
  dsimp only
  rw [length_takeWhile_bytes h, hslice]
  cases t.takeWhile accepts with
  | nil => rfl
  | cons c s => exact (apply_ite some _ _ _).symm

theorem wordByOffset_eq (rule : Rule) (t : Text) :
    wordByOffset rule t = some (word rule t) :=
  runByOffset_eq (fun _ => toNat_lt_of_isAsciiWord) rule t

theorem actionByOffset_eq (rule : Rule) (t : Text) :
    actionByOffset rule t = some (action rule t) := by
  refine runByOffset_eq (fun c hc => ?_) rule t
  rcases Bool.or_eq_true_iff.1 hc with hw | hd
  · exact toNat_lt_of_isAsciiWord hw
  · rw [beq_iff_eq.1 hd]
    decide

theorem digitsByOffset_eq (rule : Rule) (t : Text) :
    digitsByOffset rule t = some (digits rule t) := by
  have hdigit (c : Char) (hc : c.isDigit = true) : c.toNat < 128 := toNat_lt_of_isDigit hc
  have hcount : (((bytes t).take rule.most).takeWhile (acceptsByte Char.isDigit)).length =
      ((t.takeWhile Char.isDigit).take rule.most).length := by
    rw [← List.take_takeWhile, List.length_take, List.length_take, length_takeWhile_bytes hdigit]
  have hslice := sliceTo?_of_run hdigit (List.take_prefix rule.most (t.takeWhile Char.isDigit))
  unfold digitsByOffset digits
  dsimp only
  rw [hcount, hslice, ← List.take_takeWhile]
  simp only [List.length_eq_zero_iff]
  exact (apply_ite some _ _ _).symm

/-! ## Choices and matches -/

def choiceByOffset : Slicer := fun rule t =>
  match ((split '|' rule.choices).filter (· != [])).find? (·.isPrefixOf t) with
  | some choice => sliceTo? t (byteLength choice)
  | none => some []

theorem choiceByOffset_eq (rule : Rule) (t : Text) :
    choiceByOffset rule t = some (choice rule t) := by
  unfold choiceByOffset choice
  split
  · rename_i choice hfind
    have hpre : choice <+: t := by
      have hsome := List.find?_some hfind
      exact List.isPrefixOf_iff_prefix.1 hsome
    rw [sliceTo?_of_isPrefix hpre, hfind]
    rfl
  · rename_i hfind
    rw [hfind]
    rfl

variable [Engine]

def matchingByOffset (e : Engine.Expression) : Slicer := fun rule t =>
  match Engine.find? e t with
  | some found =>
    if found.matched != [] && rule.admits found.matched.length then
      sliceTo? t (byteLength found.before + byteLength found.matched)
    else some []
  | none => some []

theorem matchingByOffset_eq (e : Engine.Expression) (rule : Rule) (t : Text) :
    matchingByOffset e rule t = some (matching e rule t) := by
  unfold matchingByOffset matching
  cases hfind : Engine.find? e t with
  | none => rfl
  | some found =>
    dsimp only
    split
    · have hpre : found.before ++ found.matched <+: t :=
        ⟨found.after, (Engine.slice hfind).symm⟩
      rw [← byteLength_append, sliceTo?_of_isPrefix hpre]
    · rfl

end Validator

end PathRouting
