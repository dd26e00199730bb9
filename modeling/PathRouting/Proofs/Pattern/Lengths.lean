import Mathlib.Data.Bool.AllAny
import Mathlib.Data.List.Induction
import Mathlib.Data.Nat.Digits.Defs
import PathRouting.Proofs.Pattern.Compose
import PathRouting.Proofs.Pattern.Scan

/-! # Lengths in settings

A setting of digits is one length and two numbers around a `~` are two, in either order, as long as
they are at most 255; any other setting is kept as the choices.  So the bounds of a rule that is read
from a pattern are always in order.
-/

namespace PathRouting

theorem Text.decimalValue_eq_ofDigits (t : Text) :
    decimalValue t = Nat.ofDigits 10 (t.reverse.map fun c => c.toNat - '0'.toNat) := by
  induction t using List.reverseRecOn with
  | nil => rfl
  | append_singleton t c ih =>
    rw [List.reverse_concat, List.map_cons, Nat.ofDigits_cons, ← ih, decimalValue, List.foldl_concat,
      ← decimalValue]
    exact Nat.add_comm _ _

/-- Bounds in order, none of them past the largest length. -/
structure Rule.Ordered (r : Rule) : Prop where
  least_le : r.least ≤ r.most
  most_le : r.most ≤ largestLength

namespace Grammar

/-- ASCII digits, as many as there may be. -/
structure Digits (t : Text) : Prop where
  ne_nil : t ≠ []
  ascii : ∀ c ∈ t, c.isDigit = true

/-- The number that digits are written for, the last of them counting ones. -/
def numeral (t : Text) : Nat := Nat.ofDigits 10 (t.reverse.map fun c => c.toNat - '0'.toNat)

/-- Without line breaks, brackets, stars and slashes. -/
def Inline (t : Text) : Prop := ∀ c ∈ t, c ∉ ['\n', '<', '>', '*', '/']

/-- A setting that is neither one length nor two. -/
structure Choices (t : Text) : Prop where
  inline : Inline t
  not_length : ¬Digits t
  not_range : ∀ a b, t = a ++ '~' :: b → a ≠ [] → b ≠ [] →
    (∀ c ∈ a, Text.isDecimal c = true) → ¬∀ c ∈ b, Text.isDecimal c = true

/-- A placeholder by itself, with a validator and its setting. -/
def checked (name validator setting : Text) : Text :=
  '<' :: (name ++ ':' :: (validator ++ '(' :: (setting ++ [')'])) ++ ['>'])

end Grammar

namespace Pattern

open Grammar

variable {body name v spec setting a b t : Text} {rule : Rule} {n : Nat}

/-! ## A pattern of one placeholder -/

theorem segment_placeholder (hplain : Plain body) (hstar : '*' ∉ body) :
    segment [] true ('<' :: (body ++ ['>'])) = (placeholder body).map fun slot =>
      ([slot.1], .slotted ('<' :: (body ++ ['>'])) [.slot slot.1 slot.2]) := by
  have hne : '<' :: (body ++ ['>']) ≠ Segment.restText := by
    intro h
    have hhead : some '<' = Segment.restText.head? := congrArg List.head? h
    revert hhead
    decide
  have hmarks : marks ('<' :: (body ++ ['>'])) = ([.body body], none) := by
    rw [marks, if_pos rfl, bodyMarks_append hplain]
    rfl
  rw [segment_of_ne_rest hne, if_neg (by simp [hstar]), if_pos (by simp [isBracket]), slotted,
    hmarks]
  simp only [pieces]
  cases placeholder body <;> rfl

theorem parse_placeholder (hplain : Plain body) (hstar : '*' ∉ body) (hslash : '/' ∉ body) :
    parse ('<' :: (body ++ ['>'])) =
      ((placeholder body).map fun slot =>
        [.slotted ('<' :: (body ++ ['>'])) [.slot slot.1 slot.2]]).mapError
          (⟨'<' :: (body ++ ['>']), ·⟩) := by
  have hproper : Path.Proper ('<' :: (body ++ ['>'])) :=
    ⟨by simp, by simp, by simp, by simp [hslash]⟩
  have hfew : ¬1 > mostSegments := by decide
  rw [parse, read, Path.segments_of_proper hproper]
  dsimp only [List.length_singleton]
  rw [if_neg hfew, segmentsFrom, List.isEmpty_nil, segment_placeholder hplain hstar]
  cases placeholder body <;> rfl

theorem placeholder_checked (h : Name name) (spec : Text) :
    placeholder (name ++ ':' :: spec) =
      (validator spec).map fun rule => (name, { rule with default := none }) := by
  have hcolon : ':' ∉ name := notMem_of_word (word_of_name h) (by decide)
  have hhead : nameAndDefault name = .ok (name, none) := by
    rw [nameAndDefault, Text.cut?_eq_none.2 (notMem_of_name h)]
    exact if_pos (isName_iff.2 h)
  rw [placeholder, headAndSpec, Text.cut?_append hcolon]
  simp only [hhead]
  cases validator spec <;> rfl

theorem validator_set (h : Identifier v) (hline : '\n' ∉ setting) :
    validator (v ++ '(' :: (setting ++ [')'])) = withSetting (Rule.of v) setting := by
  obtain ⟨hfirst, hword⟩ := identifier_iff.1 h
  obtain ⟨htake, hdrop⟩ := takeWhile_isAsciiWord ('(' :: (setting ++ [')'])) hword
    (by simpa using not_isWord_paren)
  rw [validator, htake, hdrop, setting?_eq_some.2 ⟨rfl, hline⟩]
  dsimp only
  rw [if_pos hfirst, if_neg (List.cons_ne_nil _ _)]

theorem length?_of_digits (h : Digits a) :
    length? a = if numeral a ≤ 255 then .ok (numeral a) else .error (.badLength a) := by
  have hdigits : a.all Char.isDigit = true := List.all_eq_true.2 h.ascii
  have hne : (a != []) = true := bne_iff_ne.2 h.ne_nil
  rw [length?, Text.decimalValue_eq_ofDigits, hdigits, hne]
  simp [numeral, Rule.largestLength]

theorem withSetting_length (h : Digits a) :
    withSetting rule a = (length? a).map fun n => rule.withLengths n n := by
  have hdigits : (a != [] && a.all Char.isDigit) = true := by
    rw [Bool.and_eq_true, bne_iff_ne, List.all_eq_true]
    exact ⟨h.ne_nil, h.ascii⟩
  rw [withSetting, if_pos hdigits]
  cases length? a <;> rfl

theorem isDecimal_of_isDigit {c : Char} (h : c.isDigit = true) : Text.isDecimal c = true := by
  obtain ⟨hleast, hmost⟩ := Char.isDigit_iff_toNat.1 h
  refine List.any_eq_true.2 ⟨'0'.toNat, by decide, ?_⟩
  rw [Bool.and_eq_true, decide_eq_true_eq, decide_eq_true_eq]
  exact ⟨hleast, hmost⟩

theorem withSetting_range (ha : Digits a) (hb : Digits b) :
    withSetting rule (a ++ '~' :: b) =
      (length? a).bind fun m => (length? b).map fun n => rule.withLengths m n := by
  -- the `~` keeps it from being one length
  have hdigits : ¬(a ++ '~' :: b != [] && (a ++ '~' :: b).all Char.isDigit) = true := by
    rw [Bool.and_eq_true, List.all_eq_true]
    rintro ⟨-, h⟩
    exact absurd (h '~' (by simp)) (by decide)
  have hrange : range? (a ++ '~' :: b) = some (a, b) :=
    range?_eq_some.2 ⟨rfl, ha.ne_nil, hb.ne_nil, fun c hc => isDecimal_of_isDigit (ha.ascii c hc),
      fun c hc => isDecimal_of_isDigit (hb.ascii c hc)⟩
  rw [withSetting, if_neg hdigits, hrange]
  dsimp only
  cases length? a with
  | error fault => rfl
  | ok m => cases length? b <;> rfl

theorem withSetting_choices (h : Choices setting) :
    withSetting rule setting = .ok (rule.withChoices setting) := by
  have hdigits : ¬(setting != [] && setting.all Char.isDigit) = true := by
    rw [Bool.and_eq_true, bne_iff_ne, List.all_eq_true]
    exact fun hd => h.not_length ⟨hd.1, hd.2⟩
  have hrange : range? setting = none := by
    cases hr : range? setting with
    | none => rfl
    | some range =>
      obtain ⟨he, ha, hb, hda, hdb⟩ := range?_eq_some.1 hr
      exact absurd hdb (h.not_range _ _ he ha hb hda)
  rw [withSetting, if_neg hdigits, hrange]
  rfl

/-! ## Settings in a pattern -/

theorem inline_of_forall {p : Char → Prop} (h : ∀ c ∈ t, p c)
    (hp : ∀ c ∈ ['\n', '<', '>', '*', '/'], ¬p c) : Inline t :=
  fun c hc hmem => hp c hmem (h c hc)

theorem inline_of_word (h : ∀ c ∈ t, IsWord c) : Inline t :=
  inline_of_forall h (List.all_iff_forall_prop.1 (by decide))

theorem inline_of_digits (h : Digits a) : Inline a :=
  inline_of_forall h.ascii (List.all_iff_forall_prop.1 (by decide))

theorem inline_of_range (ha : Digits a) (hb : Digits b) : Inline (a ++ '~' :: b) :=
  List.forall_mem_append.2
    ⟨inline_of_digits ha, List.forall_mem_cons.2 ⟨by decide, inline_of_digits hb⟩⟩

theorem parse_checked (hname : Name name) (hv : Identifier v) (h : Inline setting) :
    parse (checked name v setting) =
      ((withSetting (Rule.of v) setting).map fun rule =>
        [.slotted (checked name v setting) [.slot name { rule with default := none }]]).mapError
          (⟨checked name v setting, ·⟩) := by
  have hline : '\n' ∉ setting := fun hmem => h _ hmem (by decide)
  -- no part of the body can end it, or the segment that it is
  have hbody : Inline (name ++ ':' :: (v ++ '(' :: (setting ++ [')']))) := by
    have hname' := inline_of_word (word_of_name hname)
    have hv' := inline_of_word (identifier_iff.1 hv).2
    unfold Inline at *
    simp only [List.forall_mem_append, List.forall_mem_cons]
    exact ⟨hname', by decide, hv', by decide, h, by decide, nofun⟩
  have hplain : Plain (name ++ ':' :: (v ++ '(' :: (setting ++ [')']))) :=
    ⟨fun hmem => hbody _ hmem (by decide), fun hmem => hbody _ hmem (by decide)⟩
  rw [checked, parse_placeholder hplain (fun hmem => hbody _ hmem (by decide))
    (fun hmem => hbody _ hmem (by decide)), placeholder_checked hname, validator_set hv hline]
  cases withSetting (Rule.of v) setting <;> rfl

/-! ## Bounds in order -/

theorem length?_le (h : length? t = .ok n) : n ≤ 255 := by
  unfold length? at h
  split at h
  · rename_i hd
    cases h
    rw [Bool.and_eq_true, decide_eq_true_eq] at hd
    exact hd.2
  · cases h

theorem ordered_withLengths {m : Nat} (hm : m ≤ 255) (hn : n ≤ 255) :
    (rule.withLengths m n).Ordered where
  least_le := Nat.le_trans (Nat.min_le_left m n) (Nat.le_max_left m n)
  most_le := Nat.max_le.2 ⟨hm, hn⟩

theorem withSetting_ordered {r : Rule} (h : withSetting rule setting = .ok r)
    (hrule : rule.Ordered) : r.Ordered := by
  unfold withSetting at h
  split at h
  · obtain ⟨n, hn, h⟩ := bind_eq_ok.1 h
    cases h
    exact ordered_withLengths (length?_le hn) (length?_le hn)
  · split at h
    · obtain ⟨m, hm, h⟩ := bind_eq_ok.1 h
      obtain ⟨n, hn, h⟩ := bind_eq_ok.1 h
      cases h
      exact ordered_withLengths (length?_le hm) (length?_le hn)
    · cases h
      exact ⟨hrule.least_le, hrule.most_le⟩

theorem ordered_of (v : Text) : (Rule.of v).Ordered where
  least_le := Nat.le_of_ble_eq_true rfl
  most_le := Nat.le_refl _

theorem validator_ordered (h : validator spec = .ok rule) : rule.Ordered := by
  unfold validator at h
  dsimp only at h
  split at h
  · split at h
    · cases h
      exact ordered_of _
    · split at h
      · exact withSetting_ordered h (ordered_of _)
      · cases h
  · cases h

theorem placeholder_ordered (h : placeholder body = .ok (name, rule)) : rule.Ordered := by
  obtain ⟨value, base, -, hbase, rfl⟩ := placeholder_eq_ok.1 h
  have hordered : base.Ordered := by
    cases hspec : (headAndSpec body).2 with
    | none =>
      rw [hspec] at hbase
      cases hbase
      exact ordered_of _
    | some spec =>
      rw [hspec] at hbase
      exact validator_ordered hbase
  exact ⟨hordered.least_le, hordered.most_le⟩

/-- Digits in a setting are one length, and digits around a `~` two, put in order; a number above
255 is turned away, the first one in the pattern.  Any other setting is kept as the choices, with
the usual bounds.  So the bounds of all rules that are read are in order. -/
theorem bounds_of_settings (hname : Name name) (hv : Identifier v) :
    (∀ a, Digits a → parse (checked name v a) =
      if numeral a ≤ 255 then
        .ok [.slotted (checked name v a) [.slot name ⟨v, none, [], numeral a, numeral a⟩]]
      else .error ⟨checked name v a, .badLength a⟩) ∧
    (∀ a b, Digits a → Digits b → parse (checked name v (a ++ '~' :: b)) =
      if numeral a ≤ 255 then
        if numeral b ≤ 255 then
          .ok [.slotted (checked name v (a ++ '~' :: b))
            [.slot name ⟨v, none, [], min (numeral a) (numeral b), max (numeral a) (numeral b)⟩]]
        else .error ⟨checked name v (a ++ '~' :: b), .badLength b⟩
      else .error ⟨checked name v (a ++ '~' :: b), .badLength a⟩) ∧
    (∀ setting, Choices setting → parse (checked name v setting) =
      .ok [.slotted (checked name v setting) [.slot name ⟨v, none, setting, 1, 255⟩]]) ∧
    ∀ pattern ss, parse pattern = .ok ss → ∀ s ∈ ss, ∀ slot ∈ s.slots, slot.2.Ordered := by
  refine ⟨fun a ha => ?_, fun a b ha hb => ?_, fun setting h => ?_, ?_⟩
  · rw [parse_checked hname hv (inline_of_digits ha), withSetting_length ha, length?_of_digits ha]
    split
    · simp only [Except.map, Except.mapError, Rule.withLengths, Nat.min_self, Nat.max_self]
      rfl
    · rfl
  · rw [parse_checked hname hv (inline_of_range ha hb), withSetting_range ha hb,
      length?_of_digits ha, length?_of_digits hb]
    split
    · split <;> rfl
    · rfl
  · rw [parse_checked hname hv h.inline, withSetting_choices h]
    rfl
  · intro pattern ss h s hs slot hslot
    have hraw := (read_eq_ok (parse_eq_ok.1 h)).2.2.ofRaw s hs
    obtain ⟨body, -, hbody⟩ := placeholder_of_slot hraw hslot
    exact placeholder_ordered hbody

/-- Leading zeros do not count, 300 is too long, and parentheses inside a setting stay. -/
theorem settings_of_number :
    Name "n".toList ∧ Identifier "int".toList ∧ Digits "007".toList ∧ Digits "0300".toList ∧
      Choices "deux(2)".toList ∧
      parse "<n:int(007)>".toList =
        .ok [.slotted "<n:int(007)>".toList [.slot "n".toList ⟨"int".toList, none, [], 7, 7⟩]] ∧
      parse "<n:int(007~0300)>".toList =
        .error ⟨"<n:int(007~0300)>".toList, .badLength "0300".toList⟩ ∧
      parse "<n:int(deux(2))>".toList =
        .ok [.slotted "<n:int(deux(2))>".toList
          [.slot "n".toList ⟨"int".toList, none, "deux(2)".toList, 1, 255⟩]] := by
  have hname : Name "n".toList := .mk (by decide) nofun
  have hv : Identifier "int".toList := 
    .mk (.inl (by decide)) (List.all_iff_forall_prop.1 (by decide))
  have hseven : Digits "007".toList := ⟨by decide, List.all_iff_forall_prop.1 (by decide)⟩
  have hlarge : Digits "0300".toList := ⟨by decide, List.all_iff_forall_prop.1 (by decide)⟩
  have hchoices : Choices "deux(2)".toList := by
    refine ⟨List.all_iff_forall_prop.1 (by decide), fun h => ?_, fun a b he => ?_⟩
    · exact absurd (h.ascii 'd' (by decide)) (by decide)
    · have hmem : '~' ∈ "deux(2)".toList := he ▸ List.mem_append_right a List.mem_cons_self
      exact absurd hmem (by decide)
  have hseven_eq : numeral "007".toList = 7 := by decide
  have hlarge_eq : numeral "0300".toList = 300 := by decide
  obtain ⟨hone, htwo, hother, -⟩ := bounds_of_settings hname hv
  refine ⟨hname, hv, hseven, hlarge, hchoices, ?_, ?_, hother _ hchoices⟩
  · have h := hone _ hseven
    rwa [hseven_eq, if_pos (by decide)] at h
  · have h := htwo _ _ hseven hlarge
    rwa [hseven_eq, hlarge_eq, if_pos (by decide), if_neg (by decide)] at h

end Pattern

end PathRouting
