import PathRouting.Text.Basic

/-! # Bytes of texts

The UTF-8 form of a text.  A byte below 128 is a character of its own, and all bytes of any other
character are above that, so a run of ASCII characters is found among the bytes as well.
-/

namespace PathRouting

namespace Text

variable {t : Text} {c : Char} {accepts : Char → Bool}

def bytes (t : Text) : List UInt8 := t.flatMap String.utf8EncodeChar

@[simp] theorem bytes_cons (c : Char) (t : Text) :
    bytes (c :: t) = String.utf8EncodeChar c ++ bytes t := List.flatMap_cons

theorem length_bytes (t : Text) : (bytes t).length = byteLength t := by
  induction t with
  | nil => rfl
  | cons c t ih => simp [ih]

theorem utf8EncodeChar_of_ascii (h : c.toNat < 128) :
    String.utf8EncodeChar c = [UInt8.ofNat c.toNat] := by
  have hle : c.val.toNat ≤ 127 := Nat.le_of_lt_succ h
  unfold String.utf8EncodeChar
  simp only [hle, if_true]
  rfl

theorem utf8EncodeChar_of_not_ascii (h : 128 ≤ c.toNat) :
    ∃ b bs, String.utf8EncodeChar c = b :: bs ∧ 128 ≤ b.toNat := by
  have hlt : ¬c.val.toNat ≤ 127 := Nat.not_le.2 h
  unfold String.utf8EncodeChar
  simp only [hlt, if_false]
  have hfirst {n : Nat} (hn : n < 256) (hle : 128 ≤ n) : 128 ≤ (UInt8.ofNat n).toNat := by
    rwa [UInt8.toNat_ofNat_of_lt' hn]
  split
  · exact ⟨_, _, rfl, hfirst (by omega) (by omega)⟩
  split
  · exact ⟨_, _, rfl, hfirst (by omega) (by omega)⟩
  · exact ⟨_, _, rfl, hfirst (by omega) (by omega)⟩

theorem byteLength_eq_length (h : ∀ c ∈ t, c.toNat < 128) : byteLength t = t.length := by
  induction t with
  | nil => rfl
  | cons c t ih =>
    obtain ⟨hc, ht⟩ := List.forall_mem_cons.1 h
    have hone : c.utf8Size = 1 := by
      rw [← String.length_utf8EncodeChar, utf8EncodeChar_of_ascii hc]
      rfl
    rw [byteLength_cons, hone, ih ht, List.length_cons, Nat.add_comm]

def acceptsByte (accepts : Char → Bool) (b : UInt8) : Bool := accepts (Char.ofUInt8 b)

theorem toNat_ofUInt8 (b : UInt8) : (Char.ofUInt8 b).toNat = b.toNat := rfl

theorem acceptsByte_ofNat (hc : c.toNat < 128) :
    acceptsByte accepts (UInt8.ofNat c.toNat) = accepts c := by
  have hchar : Char.ofUInt8 (UInt8.ofNat c.toNat) = c := by
    apply Char.toNat_inj.1
    rw [toNat_ofUInt8, UInt8.toNat_ofNat_of_lt' (Nat.lt_trans hc (by decide))]
  rw [acceptsByte, hchar]

/-- A run of characters of an ASCII kind is a run of bytes. -/
theorem takeWhile_bytes (h : ∀ c, accepts c = true → c.toNat < 128) (t : Text) :
    (bytes t).takeWhile (acceptsByte accepts) = bytes (t.takeWhile accepts) := by
  induction t with
  | nil => rfl
  | cons c t ih =>
    rw [bytes_cons]
    rcases Nat.lt_or_ge c.toNat 128 with hc | hc
    · rw [utf8EncodeChar_of_ascii hc, List.singleton_append, List.takeWhile_cons,
        acceptsByte_ofNat hc, List.takeWhile_cons, ih]
      split
      · rw [bytes_cons, utf8EncodeChar_of_ascii hc, List.singleton_append]
      · rfl
    · obtain ⟨b, bs, hbs, hb⟩ := utf8EncodeChar_of_not_ascii hc
      have hchar : accepts c = false := by
        refine Bool.eq_false_iff.2 fun hne => ?_
        have := h c hne
        omega
      have hbyte : acceptsByte accepts b = false := by
        refine Bool.eq_false_iff.2 fun hne => ?_
        have hlt := h (Char.ofUInt8 b) hne
        rw [toNat_ofUInt8] at hlt
        omega
      rw [hbs, List.cons_append, List.takeWhile_cons, hbyte, List.takeWhile_cons, hchar]
      rfl

end Text

end PathRouting
