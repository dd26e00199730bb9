import PathRouting.Numeral
import PathRouting.Text.Blank

/-! # Numerals and their numbers

A numeral is read as a number just when it is written with the digits of that number, in either
case, after any zeros and a plus sign that may be left out.  A word is refused from 64 bits on, and
never wraps.
-/

namespace PathRouting

namespace Text

variable {c : Char} {d : Nat}

theorem lt_of_toLower (h : c.toLower.toNat < 128) : c.toNat < 128 := by
  unfold Char.toLower at h
  split at h
  · rename_i hupper
    exact Nat.lt_of_le_of_lt (UInt32.le_iff_toNat_le.1 hupper.2) (by decide)
  · exact h

theorem lt_of_hexDigit? (h : hexDigit? c = some d) : c.toNat < 128 := by
  unfold hexDigit? at h
  split at h
  · rename_i hc
    exact Nat.lt_of_le_of_lt (Char.isDigit_iff_toNat.1 hc).2 (by decide)
  · split at h
    · rename_i hc
      exact Nat.lt_of_le_of_lt (UInt32.le_iff_toNat_le.1 hc.2) (by decide)
    · split at h
      · rename_i hc
        exact Nat.lt_of_le_of_lt (UInt32.le_iff_toNat_le.1 hc.2) (by decide)
      · cases h

/-- A property of ASCII characters holds if each of their codes has it. -/
theorem of_ascii (P : Char → Prop) (hall : ∀ k < 128, P (Char.ofNat k)) (h : c.toNat < 128) :
    P c := by
  have hc := hall c.toNat h
  rwa [Char.ofNat_toNat] at hc

theorem hexDigit?_eq_some (hd : d < 16) : hexDigit? c = some d ↔ c.toLower = d.digitChar := by
  have hascii (hc : c.toNat < 128) : hexDigit? c = some d ↔ c.toLower = d.digitChar :=
    of_ascii (fun c => ∀ d < 16, (hexDigit? c = some d ↔ c.toLower = d.digitChar))
      (by decide +kernel) hc d hd
  have hdigit : ∀ d < 16, d.digitChar.toNat < 128 := by decide
  constructor
  · intro h
    exact (hascii (lt_of_hexDigit? h)).1 h
  · intro h
    exact (hascii (lt_of_toLower (h ▸ hdigit d hd))).2 h

theorem eq_of_hexDigit?_zero (h : hexDigit? c = some 0) : c = '0' :=
  of_ascii (fun c => hexDigit? c = some 0 → c = '0') (by decide) (lt_of_hexDigit? h) h

theorem not_isBlank_of_hexDigit? (h : hexDigit? c = some d) : isBlank c = false := by
  have hsome : (hexDigit? c).isSome = true := Option.isSome_of_eq_some h
  exact of_ascii (fun c => (hexDigit? c).isSome = true → isBlank c = false) (by decide)
    (lt_of_hexDigit? h) hsome

end Text

namespace Numeral

variable {base m n : Nat} {t : Text} {c : Char} {d : Nat}

/-- The digits of a number, in either case, after any number of zeros. -/
inductive Digits (base n : Nat) : Text → Prop
  | mk (zeros : Nat) {digits : Text} (digits_eq : Text.lowerAscii digits = Nat.toDigits base n) :
      Digits base n (List.replicate zeros '0' ++ digits)

inductive Written (base n : Nat) : Text → Prop
  | bare {t : Text} (digits : Digits base n t) : Written base n t
  | plus {t : Text} (digits : Digits base n t) : Written base n ('+' :: t)

theorem digit?_eq_some (hbase : base ≤ 16) :
    digit? base c = some d ↔ d < base ∧ c.toLower = d.digitChar := by
  rw [digit?, Option.filter_eq_some_iff, decide_eq_true_eq, and_comm]
  exact and_congr_right fun hd => Text.hexDigit?_eq_some (Nat.lt_of_lt_of_le hd hbase)

theorem value?_append (s t : Text) :
    value? base m (s ++ t) = (value? base m s).bind (value? base · t) := by
  induction s generalizing m with
  | nil => rfl
  | cons c s ih =>
    rw [List.cons_append, value?, value?]
    cases digit? base c with
    | none => rfl
    | some d => exact ih

theorem value?_zero_cons (hbase : 0 < base) : value? base 0 ('0' :: t) = value? base 0 t := by
  have hzero : digit? base '0' = some 0 := by
    rw [digit?, Option.filter_eq_some_iff]
    exact ⟨rfl, decide_eq_true hbase⟩
  rw [value?, hzero]
  rfl

theorem digit_of_value? (h : value? base m t = some n) :
    ∀ c ∈ t, ∃ d, digit? base c = some d := by
  induction t generalizing m with
  | nil => exact nofun
  | cons c t ih =>
    obtain ⟨d, hd, h⟩ := Option.bind_eq_some_iff.1 h
    exact List.forall_mem_cons.2 ⟨⟨d, hd⟩, ih h⟩

/-- The digits of a number have its value; the induction goes from the last digit on. -/
theorem value?_of_toDigits (hone : 1 < base) (hbase : base ≤ 16)
    (h : Text.lowerAscii t = Nat.toDigits base n) : value? base 0 t = some n := by
  induction n using Nat.strongRecOn generalizing t with
  | ind n ih =>
    by_cases hn : n < base
    · rw [Nat.toDigits_of_lt_base hn] at h
      obtain ⟨c, rfl, hc⟩ := List.map_eq_singleton_iff.1 h
      rw [value?, (digit?_eq_some hbase).2 ⟨hn, hc⟩]
      simp [value?]
    · have hpos : 0 < base := Nat.lt_trans Nat.zero_lt_one hone
      rw [Nat.toDigits_of_base_le hone (Nat.le_of_not_lt hn)] at h
      obtain ⟨front, last, rfl, hfront, hlast⟩ := List.map_eq_append_iff.1 h
      obtain ⟨c, rfl, hc⟩ := List.map_eq_singleton_iff.1 hlast
      have hsmaller : n / base < n := Nat.div_lt_self (by omega) hone
      have hdigit : digit? base c = some (n % base) :=
        (digit?_eq_some hbase).2 ⟨Nat.mod_lt n hpos, hc⟩
      rw [value?_append, ih _ hsmaller hfront, Option.bind_some, value?, hdigit, Option.bind_some,
        value?, Nat.div_add_mod]

/-- Digits read after a number other than zero are put behind its own. -/
theorem toDigits_append_of_value? (hone : 1 < base) (hbase : base ≤ 16) (hm : 0 < m)
    (h : value? base m t = some n) :
    Nat.toDigits base m ++ Text.lowerAscii t = Nat.toDigits base n := by
  induction t generalizing m with
  | nil =>
    cases h
    exact List.append_nil _
  | cons c t ih =>
    obtain ⟨d, hd, h⟩ := Option.bind_eq_some_iff.1 h
    obtain ⟨hlt, hc⟩ := (digit?_eq_some hbase).1 hd
    have hpos : 0 < base * m + d :=
      Nat.add_pos_left (Nat.mul_pos (Nat.lt_trans Nat.zero_lt_one hone) hm) d
    calc Nat.toDigits base m ++ Text.lowerAscii (c :: t)
        = (Nat.toDigits base m ++ [c.toLower]) ++ Text.lowerAscii t := by
          simp [Text.lowerAscii]
      _ = Nat.toDigits base (base * m + d) ++ Text.lowerAscii t := by
          rw [hc, ← Nat.toDigits_of_lt_base hlt, Nat.toDigits_append_toDigits hone hm hlt]
      _ = Nat.toDigits base n := ih hpos h

theorem Digits.zero_cons (h : Digits base n t) : Digits base n ('0' :: t) := by
  cases h with
  | mk zeros digits_eq => exact .mk (zeros + 1) digits_eq

theorem Digits.ne_nil (h : Digits base n t) : t ≠ [] := by
  cases h with
  | mk zeros digits_eq =>
    rintro he
    obtain ⟨-, rfl⟩ := List.append_eq_nil_iff.1 he
    exact Nat.toDigits_ne_nil digits_eq.symm

theorem Digits.value? (hone : 1 < base) (hbase : base ≤ 16) (h : Digits base n t) :
    value? base 0 t = some n := by
  cases h with
  | mk zeros digits_eq =>
    induction zeros with
    | zero => exact value?_of_toDigits hone hbase digits_eq
    | succ zeros ih =>
      rw [List.replicate_succ, List.cons_append, value?_zero_cons (Nat.lt_of_succ_lt hone), ih]

theorem eq_zero_of_digit? (h : digit? base c = some 0) : c = '0' :=
  Text.eq_of_hexDigit?_zero (Option.filter_eq_some_iff.1 h).1

theorem digits_of_value? (hone : 1 < base) (hbase : base ≤ 16) (hne : t ≠ [])
    (h : Numeral.value? base 0 t = some n) : Digits base n t := by
  induction t with
  | nil => exact absurd rfl hne
  | cons c t ih =>
    obtain ⟨d, hd, hmore⟩ := Option.bind_eq_some_iff.1 h
    rw [Nat.mul_zero, Nat.zero_add] at hmore
    cases d with
    | zero =>
      obtain rfl := eq_zero_of_digit? hd
      by_cases ht : t = []
      · subst ht
        cases hmore
        exact .mk 0 (Nat.toDigits_zero base).symm
      · exact (ih ht hmore).zero_cons
    | succ d =>
      obtain ⟨hlt, hc⟩ := (digit?_eq_some hbase).1 hd
      have hdigits := toDigits_append_of_value? hone hbase (Nat.succ_pos d) hmore
      rw [Nat.toDigits_of_lt_base hlt, ← hc] at hdigits
      exact (.mk 0 hdigits : Digits base n ([] ++ c :: t))

/-! ## Signs and limits -/

theorem unsigned_eq_some (hone : 1 < base) (hbase : base ≤ 16) :
    (if t = [] then none else value? base 0 t) = some n ↔ Digits base n t := by
  constructor
  · intro h
    split at h
    · cases h
    · rename_i hne
      exact digits_of_value? hone hbase hne h
  · intro h
    rw [if_neg h.ne_nil, h.value? hone hbase]

theorem parse?_of_ne_plus (h : ∀ t', t ≠ '+' :: t') :
    parse? base t = if t = [] then none else value? base 0 t := by
  unfold parse?
  dsimp only
  split
  · rename_i t'
    exact absurd rfl (h t')
  · rfl

theorem Digits.ne_plus (hone : 1 < base) (hbase : base ≤ 16) (h : Digits base n t) (t' : Text) :
    t ≠ '+' :: t' := by
  rintro rfl
  obtain ⟨d, hd⟩ := digit_of_value? (h.value? hone hbase) '+' List.mem_cons_self
  cases hd

/-- Reading a numeral gives the number that it is written for. -/
theorem parse?_eq_some (hone : 1 < base) (hbase : base ≤ 16) :
    parse? base t = some n ↔ Written base n t := by
  constructor
  · intro h
    by_cases hplus : ∃ t', t = '+' :: t'
    · obtain ⟨t', rfl⟩ := hplus
      exact .plus ((unsigned_eq_some hone hbase).1 h)
    · rw [parse?_of_ne_plus (not_exists.1 hplus)] at h
      exact .bare ((unsigned_eq_some hone hbase).1 h)
  · intro h
    cases h with
    | bare digits =>
      rw [parse?_of_ne_plus (digits.ne_plus hone hbase)]
      exact (unsigned_eq_some hone hbase).2 digits
    | plus digits => exact (unsigned_eq_some hone hbase).2 digits

theorem Written.not_isBlank (hone : 1 < base) (hbase : base ≤ 16) (h : Written base n t) :
    ∀ c ∈ t, Text.isBlank c = false := by
  have hdigits {t : Text} (h : Digits base n t) : ∀ c ∈ t, Text.isBlank c = false := by
    intro c hc
    obtain ⟨d, hd⟩ := digit_of_value? (h.value? hone hbase) c hc
    exact Text.not_isBlank_of_hexDigit? (Option.filter_eq_some_iff.1 hd).1
  cases h with
  | bare digits => exact hdigits digits
  | plus digits => exact List.forall_mem_cons.2 ⟨by decide, hdigits digits⟩

end Numeral

end PathRouting
