import PathRouting.Text.Basic

/-! # Offsets

A place in a text is the number of bytes before it.  A slice between two places is absent when they
are out of order, past the end of the text, or inside a character.
-/

namespace PathRouting

namespace Text

variable {t s rest p : Text} {start stop n : Nat}

theorem byteLength_eq_zero : byteLength t = 0 ↔ t = [] := by
  cases t with
  | nil => simp
  | cons c t =>
    have := c.utf8Size_pos
    simp only [byteLength_cons, reduceCtorEq, iff_false]
    omega

theorem dropPrefix?_eq_some : dropPrefix? t p = some rest ↔ t = p ++ rest := by
  induction p generalizing t with
  | nil =>
    rw [List.nil_append]
    cases t <;> exact Option.some_inj
  | cons d p ih =>
    cases t with
    | nil => simp [dropPrefix?]
    | cons c t =>
      rw [dropPrefix?, List.cons_append, List.cons_eq_cons]
      split
      · rename_i hc
        rw [ih, and_iff_right hc]
      · rename_i hc
        simp [hc]

theorem dropPrefix?_eq_none (h : dropPrefix? t p = none) : p.isPrefixOf t = false := by
  refine Bool.eq_false_iff.2 fun hp => ?_
  obtain ⟨rest, rfl⟩ := List.isPrefixOf_iff_prefix.1 hp
  rw [dropPrefix?_eq_some.2 rfl] at h
  cases h

theorem cutBytes?_eq_some :
    cutBytes? t n = some (s, rest) ↔ t = s ++ rest ∧ byteLength s = n := by
  constructor
  · intro h
    induction t generalizing n s with
    | nil =>
      cases n with
      | zero =>
        cases h
        exact ⟨rfl, rfl⟩
      | succ n => cases h
    | cons c t ih =>
      cases n with
      | zero =>
        cases h
        exact ⟨rfl, rfl⟩
      | succ n =>
        rw [cutBytes?] at h
        split at h
        · rename_i hc
          obtain ⟨⟨s', rest'⟩, hcut, he⟩ := Option.map_eq_some_iff.1 h
          cases he
          obtain ⟨rfl, hlen⟩ := ih hcut
          refine ⟨rfl, ?_⟩
          rw [byteLength_cons, hlen]
          omega
        · cases h
  · rintro ⟨rfl, rfl⟩
    induction s with
    | nil => cases rest <;> rfl
    | cons c s ih =>
      have hpos := c.utf8Size_pos
      obtain ⟨m, hm⟩ := Nat.exists_eq_add_one.2 (Nat.add_pos_left hpos (byteLength s))
      have hrest : m + 1 - c.utf8Size = byteLength s := by omega
      rw [byteLength_cons, hm, List.cons_append, cutBytes?, if_pos (by omega), hrest, ih]
      rfl

theorem cutBytes?_append (s t : Text) : cutBytes? (s ++ t) (byteLength s) = some (s, t) :=
  cutBytes?_eq_some.2 ⟨rfl, rfl⟩

/-- Front parts of one text with as many bytes are the same. -/
theorem append_inj_byteLength {s' t' : Text} (h : s ++ t = s' ++ t')
    (hlength : byteLength s = byteLength s') : s = s' ∧ t = t' := by
  have hcut := cutBytes?_append s t
  rw [h, hlength, cutBytes?_append] at hcut
  obtain ⟨rfl, rfl⟩ := Prod.mk.inj (Option.some.inj hcut)
  exact ⟨rfl, rfl⟩

def sliceTo? (t : Text) (stop : Nat) : Option Text := (cutBytes? t stop).map (·.1)

def sliceFrom? (t : Text) (start : Nat) : Option Text := (cutBytes? t start).map (·.2)

def slice? (t : Text) (start stop : Nat) : Option Text := do
  let front ← sliceTo? t stop
  sliceFrom? front start

theorem sliceTo?_eq_some :
    sliceTo? t stop = some s ↔ ∃ back, t = s ++ back ∧ byteLength s = stop := by
  simp [sliceTo?, cutBytes?_eq_some]

theorem sliceFrom?_eq_some :
    sliceFrom? t start = some s ↔ ∃ front, t = front ++ s ∧ byteLength front = start := by
  simp [sliceFrom?, cutBytes?_eq_some]

theorem sliceFrom?_append (front t : Text) :
    sliceFrom? (front ++ t) (byteLength front) = some t :=
  sliceFrom?_eq_some.2 ⟨front, rfl, rfl⟩

theorem slice?_eq_some : slice? t start stop = some s ↔ ∃ front back, t = front ++ s ++ back ∧
    byteLength front = start ∧ byteLength (front ++ s) = stop := by
  simp only [slice?, Option.bind_eq_bind, Option.bind_eq_some_iff, sliceTo?_eq_some,
    sliceFrom?_eq_some]
  constructor
  · rintro ⟨_, ⟨back, rfl, hstop⟩, front, rfl, hstart⟩
    exact ⟨front, back, rfl, hstart, hstop⟩
  · rintro ⟨front, back, rfl, hstart, hstop⟩
    exact ⟨_, ⟨back, rfl, hstop⟩, front, rfl, hstart⟩

example : slice? "aéb".toList 1 3 = some "é".toList ∧ slice? "aéb".toList 1 2 = none := by decide

end Text

end PathRouting
