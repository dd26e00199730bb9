import PathRouting.Proofs.Numeral
import PathRouting.Settings

/-! # The threshold from the environment

The variable gives a number of microseconds when it is written in decimal, or in hexadecimal after
`0x`, with white space around.  A number past 64 bits counts as not given, as does any other text.
-/

namespace PathRouting

namespace Settings

variable {n : Nat} {t : Text}

/-- How a number can be written in the variable, white space aside. -/
inductive Spelled (n : Nat) : Text → Prop
  | decimal {t : Text} (written : Numeral.Written 10 n t) : Spelled n t
  | hexadecimal {t : Text} (written : Numeral.Written 16 n t) : Spelled n ('0' :: 'x' :: t)

/-- White space around a number that is written in one of the two ways. -/
inductive Given (n : Nat) : Text → Prop
  | mk {before t after : Text} (blank_before : ∀ c ∈ before, Text.isBlank c = true)
      (spelled : Spelled n t) (blank_after : ∀ c ∈ after, Text.isBlank c = true) :
      Given n (before ++ t ++ after)

/-- Like `micros?`, without white space around and of any size. -/
def number? : Text → Option Nat
  | '0' :: 'x' :: t => Numeral.parse? 16 t
  | t => Numeral.parse? 10 t

theorem number?_of_ne (h : ∀ t', t ≠ '0' :: 'x' :: t') : number? t = Numeral.parse? 10 t := by
  unfold number?
  split
  · rename_i t'
    exact absurd rfl (h t')
  · rfl

/-- The limit on a number comes last. -/
theorem micros?_eq (t : Text) :
    micros? t = (number? (Text.trim t)).filter (· < Numeral.wordLimit) := by
  unfold micros?
  split
  · rename_i t' ht
    rw [ht]
    rfl
  · rename_i hne
    rw [number?_of_ne hne]
    rfl

theorem ne_of_decimal (h : Numeral.Written 10 n t) (t' : Text) : t ≠ '0' :: 'x' :: t' := by
  rintro rfl
  have hread := (Numeral.parse?_eq_some (by decide) (by decide)).2 h
  cases hread

theorem number?_eq_some : number? t = some n ↔ Spelled n t := by
  have hdecimal {t : Text} : Numeral.parse? 10 t = some n ↔ Numeral.Written 10 n t :=
    Numeral.parse?_eq_some (by decide) (by decide)
  have hhexadecimal {t : Text} : Numeral.parse? 16 t = some n ↔ Numeral.Written 16 n t :=
    Numeral.parse?_eq_some (by decide) (by decide)
  constructor
  · intro h
    by_cases hhex : ∃ t', t = '0' :: 'x' :: t'
    · obtain ⟨t', rfl⟩ := hhex
      exact .hexadecimal (hhexadecimal.1 h)
    · rw [number?_of_ne (not_exists.1 hhex)] at h
      exact .decimal (hdecimal.1 h)
  · intro h
    cases h with
    | decimal written =>
      rw [number?_of_ne (ne_of_decimal written)]
      exact hdecimal.2 written
    | hexadecimal written => exact hhexadecimal.2 written

theorem Spelled.not_isBlank (h : Spelled n t) : ∀ c ∈ t, Text.isBlank c = false := by
  cases h with
  | decimal written => exact written.not_isBlank (by decide) (by decide)
  | hexadecimal written =>
    have hdigits := written.not_isBlank (by decide) (by decide)
    exact List.forall_mem_cons.2 ⟨by decide, List.forall_mem_cons.2 ⟨by decide, hdigits⟩⟩

theorem Spelled.ne_nil (h : Spelled n t) : t ≠ [] := by
  rintro rfl
  have hread := number?_eq_some.2 h
  cases hread

theorem number?_trim : number? (Text.trim t) = some n ↔ Given n t := by
  constructor
  · intro h
    obtain ⟨before, after, ht, hbefore, hafter⟩ := Text.eq_append_trim t
    rw [ht]
    exact .mk hbefore (number?_eq_some.1 h) hafter
  · rintro ⟨hbefore, hspelled, hafter⟩
    rw [Text.trim_append hbefore hspelled.not_isBlank hspelled.ne_nil hafter]
    exact number?_eq_some.2 hspelled

theorem slowAfter_of_variable {env : Environment} (h : env.value? slowVariable = some t) :
    (ofEnvironment env).slowAfter = (micros? t).elim Router.usualThreshold .mk := by
  rw [ofEnvironment, threshold, h, Option.bind_some]
  cases micros? t <;> rfl

/-- A number of microseconds in either base is the threshold just as it is written, as long as it
fits in 64 bits.  From there on, and for any text that is not a number, it is a millisecond. -/
theorem threshold_as_given {env : Environment} (h : env.value? slowVariable = some t) :
    (∀ n, Given n t →
      (ofEnvironment env).slowAfter = ⟨if n < Numeral.wordLimit then n else 1000⟩) ∧
    ((∀ n, ¬Given n t) → (ofEnvironment env).slowAfter = ⟨1000⟩) := by
  rw [slowAfter_of_variable h, micros?_eq]
  constructor
  · intro n hn
    rw [number?_trim.2 hn, Option.filter_some]
    by_cases hfits : n < Numeral.wordLimit
    · rw [if_pos (decide_eq_true hfits), if_pos hfits]
      rfl
    · rw [if_neg (by simpa using hfits), if_neg hfits]
      rfl
  · intro hno
    have hnone : number? (Text.trim t) = none :=
      Option.eq_none_iff_forall_ne_some.2 fun n => mt number?_trim.1 (hno n)
    rw [hnone]
    rfl

/-- An environment of the one variable. -/
def asking (t : Text) : Environment := Dictionary.empty.insert slowVariable.toList t

theorem value?_asking (t : Text) : (asking t).value? slowVariable = some t := by
  rw [asking, Environment.value?, Dictionary.get?_insert, if_pos rfl]

/-- The largest number that fits in 64 bits. -/
def largest : Text := "\u00a00x+00FFFFffffFFFFffff\n".toList

def tooLarge : Text := "18446744073709551616".toList

def notNumbers : List Text :=
  ["", "0x", "0X10", "-1", "1 0", "ff", "+0x10"].map String.toList

theorem threshold_at_limit :
    (asking largest).value? slowVariable = some largest ∧ Given 18446744073709551615 largest ∧
      (ofEnvironment (asking largest)).slowAfter = ⟨18446744073709551615⟩ ∧
      Given 18446744073709551616 tooLarge ∧
      (ofEnvironment (asking tooLarge)).slowAfter = ⟨1000⟩ ∧
      ∀ t ∈ notNumbers, (∀ n, ¬Given n t) ∧ (ofEnvironment (asking t)).slowAfter = ⟨1000⟩ := by
  have hlargest : Given 18446744073709551615 largest := number?_trim.1 (by decide +kernel)
  have htooLarge : Given 18446744073709551616 tooLarge := number?_trim.1 (by decide +kernel)
  have hnone : ∀ t ∈ notNumbers, number? (Text.trim t) = none := by decide +kernel
  refine ⟨value?_asking _, hlargest, ?_, htooLarge, ?_, fun t ht => ?_⟩
  · exact (threshold_as_given (value?_asking _)).1 _ hlargest
  · exact (threshold_as_given (value?_asking _)).1 _ htooLarge
  · have hno : ∀ n, ¬Given n t := by
      intro n hn
      rw [← number?_trim, hnone t ht] at hn
      cases hn
    exact ⟨hno, (threshold_as_given (value?_asking t)).2 hno⟩

end Settings

end PathRouting
