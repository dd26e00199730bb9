import PathRouting.Proofs.Pattern.Reading
import PathRouting.Proofs.Text.Cut

/-! # How placeholders are written

The grammar of the text between angle brackets: a name or a name with a default, and after a colon
the validator with its setting.  A body is read just when it is written so, and the name read is the
name written.
-/

namespace PathRouting

namespace Grammar

/-- An ASCII letter or digit, or `_`. -/
def IsWord (c : Char) : Prop := c.isAlphanum = true ∨ c = '_'

instance : DecidablePred IsWord := fun c => inferInstanceAs (Decidable (_ ∨ c = '_'))

/-- A letter, then word characters. -/
inductive Name : Text → Prop
  | mk {c : Char} {more : Text} (first : c.isAlpha = true) (later : ∀ d ∈ more, IsWord d) :
      Name (c :: more)

/-- A letter or `_`, then word characters. -/
inductive Identifier : Text → Prop
  | mk {c : Char} {more : Text} (first : c.isAlpha = true ∨ c = '_')
      (later : ∀ d ∈ more, IsWord d) : Identifier (c :: more)

/-- A number of at most 255, in ASCII digits. -/
structure Length (digits : Text) : Prop where
  ascii : ∀ c ∈ digits, c.isDigit = true
  le : Text.decimalValue digits ≤ 255

/-- One line, where digits alone are a length, and digits of any script on both sides of a `~` are
two. -/
structure Setting (t : Text) : Prop where
  one_line : '\n' ∉ t
  length : (∀ c ∈ t, c.isDigit = true) → Text.decimalValue t ≤ 255
  range : ∀ a b, t = a ++ '~' :: b → a ≠ [] → b ≠ [] → (∀ c ∈ a, Text.isDecimal c = true) →
    (∀ c ∈ b, Text.isDecimal c = true) → Length a ∧ Length b

/-- The part after the colon. -/
inductive Spec : Text → Prop
  | bare {name : Text} (name_ok : Identifier name) : Spec name
  | set {name setting : Text} (name_ok : Identifier name) (setting_ok : Setting setting) :
      Spec (name ++ '(' :: (setting ++ [')']))

/-- The part before the colon, and the name in it. -/
inductive Head : Text → Text → Prop
  | bare {name : Text} (name_ok : Name name) : Head name name
  | default {name value : Text} (ne_nil : name ≠ []) (first : '=' ∉ name) :
      Head (name ++ '=' :: value) name

/-- What stands between angle brackets, and the name of the placeholder. -/
inductive Body : Text → Text → Prop
  | bare {head name : Text} (head_ok : Head head name) (no_colon : ':' ∉ head) : Body head name
  | checked {head name spec : Text} (head_ok : Head head name) (first : ':' ∉ head)
      (spec_ok : Spec spec) : Body (head ++ ':' :: spec) name

end Grammar

theorem exists_bind_eq_ok {κ α β : Type} {x : Except κ α} {f : α → Except κ β} :
    (∃ b, (x >>= f) = .ok b) ↔ ∃ a, x = .ok a ∧ ∃ b, f a = .ok b := by
  constructor
  · rintro ⟨b, h⟩
    obtain ⟨a, ha, hb⟩ := bind_eq_ok.1 h
    exact ⟨a, ha, b, hb⟩
  · rintro ⟨a, ha, b, hb⟩
    exact ⟨b, bind_eq_ok.2 ⟨a, ha, hb⟩⟩

namespace Pattern

open Grammar

variable {t digits setting spec head body name : Text}

theorem isAsciiWord_iff {c : Char} : Text.isAsciiWord c = true ↔ IsWord c := by
  simp [Text.isAsciiWord, IsWord]

/-! ## Settings -/

theorem length?_succeeds (hne : digits ≠ []) :
    (∃ n, length? digits = .ok n) ↔ Length digits := by
  unfold length?
  constructor
  · rintro ⟨n, h⟩
    split at h
    · rename_i hd
      simp only [Bool.and_eq_true, List.all_eq_true, decide_eq_true_eq] at hd
      exact ⟨hd.1.1, hd.2⟩
    · cases h
  · rintro ⟨hd, hle⟩
    rw [if_pos]
    · exact ⟨_, rfl⟩
    · simp only [Bool.and_eq_true, List.all_eq_true, bne_iff_ne, decide_eq_true_eq]
      exact ⟨⟨hd, hne⟩, hle⟩

theorem range?_eq_some {a b : Text} : range? setting = some (a, b) ↔
    setting = a ++ '~' :: b ∧ a ≠ [] ∧ b ≠ [] ∧ (∀ c ∈ a, Text.isDecimal c = true) ∧
      ∀ c ∈ b, Text.isDecimal c = true := by
  unfold range?
  constructor
  · intro h
    split at h
    · rename_i a' b' hcut
      split at h
      · rename_i hd
        cases h
        simp only [Bool.and_eq_true, bne_iff_ne, List.all_eq_true] at hd
        exact ⟨(Text.cut?_eq_some.1 hcut).1, hd.1.1.1, hd.1.1.2, hd.1.2, hd.2⟩
      · cases h
    · cases h
  · rintro ⟨rfl, ha, hb, hda, hdb⟩
    have hsep : '~' ∉ a := by
      intro h
      have := hda _ h
      revert this
      decide
    rw [Text.cut?_append hsep]
    dsimp only
    rw [if_pos]
    simp only [Bool.and_eq_true, bne_iff_ne, List.all_eq_true]
    exact ⟨⟨⟨ha, hb⟩, hda⟩, hdb⟩

theorem withSetting_of_digits {rule : Rule} (hne : setting ≠ [])
    (hd : ∀ c ∈ setting, c.isDigit = true) (hline : '\n' ∉ setting) :
    (∃ r, withSetting rule setting = .ok r) ↔ Setting setting := by
  have hdigits : (setting != [] && setting.all Char.isDigit) = true := by
    simp only [Bool.and_eq_true, bne_iff_ne, List.all_eq_true]
    exact ⟨hne, hd⟩
  have hrange : ∀ a b, setting ≠ a ++ '~' :: b := by
    rintro a b rfl
    have := hd '~' (by simp)
    revert this
    decide
  rw [withSetting, if_pos hdigits, exists_bind_eq_ok]
  constructor
  · rintro ⟨n, hn, -⟩
    have hlen := (length?_succeeds hne).1 ⟨n, hn⟩
    exact ⟨hline, fun _ => hlen.le, fun a b he => absurd he (hrange a b)⟩
  · intro h
    obtain ⟨n, hn⟩ := (length?_succeeds hne).2 ⟨hd, h.length hd⟩
    exact ⟨n, hn, _, rfl⟩

theorem setting_of_range {a b : Text} (hr : range? setting = some (a, b))
    (hline : '\n' ∉ setting)
    (hlength : (∀ c ∈ setting, c.isDigit = true) → Text.decimalValue setting ≤ 255) :
    Setting setting ↔ Length a ∧ Length b := by
  obtain ⟨he, ha, hb, hda, hdb⟩ := range?_eq_some.1 hr
  constructor
  · intro h
    exact h.range a b he ha hb hda hdb
  · intro h
    refine ⟨hline, hlength, fun a' b' he' ha' hb' hda' hdb' => ?_⟩
    have hr' := range?_eq_some.2 ⟨he', ha', hb', hda', hdb'⟩
    cases hr.symm.trans hr'
    exact h

theorem setting_of_choices (hr : range? setting = none) (hline : '\n' ∉ setting)
    (hlength : (∀ c ∈ setting, c.isDigit = true) → Text.decimalValue setting ≤ 255) :
    Setting setting := by
  refine ⟨hline, hlength, fun a b he ha hb hda hdb => ?_⟩
  rw [range?_eq_some.2 ⟨he, ha, hb, hda, hdb⟩] at hr
  cases hr

theorem withSetting_succeeds {rule : Rule} (hline : '\n' ∉ setting) :
    (∃ r, withSetting rule setting = .ok r) ↔ Setting setting := by
  by_cases hd : setting ≠ [] ∧ ∀ c ∈ setting, c.isDigit = true
  · exact withSetting_of_digits hd.1 hd.2 hline
  have hlength : (∀ c ∈ setting, c.isDigit = true) → Text.decimalValue setting ≤ 255 := by
    intro hall
    by_cases hne : setting = []
    · rw [hne]
      decide
    · exact absurd ⟨hne, hall⟩ hd
  have hdigits : ¬(setting != [] && setting.all Char.isDigit) = true := by
    simpa only [Bool.and_eq_true, bne_iff_ne, List.all_eq_true] using hd
  rw [withSetting, if_neg hdigits]
  cases hr : range? setting with
  | none => exact iff_of_true ⟨_, rfl⟩ (setting_of_choices hr hline hlength)
  | some range =>
    obtain ⟨a, b⟩ := range
    obtain ⟨-, ha, hb, -⟩ := range?_eq_some.1 hr
    rw [setting_of_range hr hline hlength, ← length?_succeeds ha, ← length?_succeeds hb]
    simp only [exists_bind_eq_ok]
    constructor
    · rintro ⟨m, hm, n, hn, -⟩
      exact ⟨⟨m, hm⟩, n, hn⟩
    · rintro ⟨⟨m, hm⟩, n, hn⟩
      exact ⟨m, hm, n, hn, _, rfl⟩

/-! ## Validators -/

theorem setting?_eq_some : setting? t = some setting ↔
    t = '(' :: (setting ++ [')']) ∧ '\n' ∉ setting := by
  unfold setting?
  constructor
  · intro h
    split at h
    · rename_i t
      split at h
      · rename_i hlast
        cases h
        simp only [Bool.and_eq_true, decide_eq_true_eq, Bool.not_eq_true', List.contains_eq_mem,
          decide_eq_false_iff_not] at hlast
        obtain ⟨more, rfl⟩ := List.getLast?_eq_some_iff.1 hlast.1
        rw [List.dropLast_concat] at hlast ⊢
        exact ⟨rfl, hlast.2⟩
      · cases h
    · cases h
  · rintro ⟨rfl, hline⟩
    simp [hline]

theorem takeWhile_isAsciiWord (after : Text) (h : ∀ c ∈ name, IsWord c)
    (hafter : ∀ c ∈ after.head?, ¬IsWord c) :
    (name ++ after).takeWhile Text.isAsciiWord = name ∧
      (name ++ after).dropWhile Text.isAsciiWord = after := by
  have hname : ∀ c ∈ name, Text.isAsciiWord c = true := fun c hc => isAsciiWord_iff.2 (h c hc)
  rw [List.takeWhile_append_of_pos hname, List.dropWhile_append_of_pos hname]
  cases after with
  | nil => simp
  | cons c after =>
    have hc : Text.isAsciiWord c = false := by
      simpa using mt isAsciiWord_iff.1 (hafter c rfl)
    simp [hc]

theorem identifier_iff : Identifier name ↔
    name.head?.any (fun c => isLetter c || c == '_') = true ∧ ∀ c ∈ name, IsWord c := by
  constructor
  · rintro ⟨first, later⟩
    refine ⟨by simpa [isLetter] using first, List.forall_mem_cons.2 ⟨?_, later⟩⟩
    exact first.imp_left fun h => by simp [Char.isAlphanum, h]
  · rintro ⟨first, later⟩
    cases name with
    | nil => cases first
    | cons c more =>
      exact ⟨by simpa [isLetter] using first, (List.forall_mem_cons.1 later).2⟩

theorem not_isWord_paren : ¬IsWord '(' := by decide

theorem validator_append {after : Text} (hword : ∀ c ∈ name, IsWord c)
    (hafter : ∀ c ∈ after.head?, ¬IsWord c) : (∃ rule, validator (name ++ after) = .ok rule) ↔
      Identifier name ∧ (after = [] ∨ ∃ setting, after = '(' :: (setting ++ [')']) ∧
        Setting setting) := by
  obtain ⟨htake, hdrop⟩ := takeWhile_isAsciiWord after hword hafter
  unfold validator
  rw [htake, hdrop, identifier_iff, and_iff_left hword]
  dsimp only
  split
  · rename_i hfirst
    rw [and_iff_right hfirst]
    by_cases hnil : after = []
    · rw [if_pos hnil]
      exact iff_of_true ⟨_, rfl⟩ (.inl hnil)
    rw [if_neg hnil, or_iff_right hnil]
    cases hset : setting? after with
    | none =>
      refine iff_of_false nofun ?_
      rintro ⟨setting, he, hsetting⟩
      rw [setting?_eq_some.2 ⟨he, hsetting.one_line⟩] at hset
      cases hset
    | some setting =>
      obtain ⟨rfl, hline⟩ := setting?_eq_some.1 hset
      simp [withSetting_succeeds hline]
  · rename_i hfirst
    exact iff_of_false nofun fun h => hfirst h.1

theorem validator_succeeds : (∃ rule, validator spec = .ok rule) ↔ Spec spec := by
  constructor
  · intro h
    have hword : ∀ c ∈ spec.takeWhile Text.isAsciiWord, IsWord c :=
      fun c hc => isAsciiWord_iff.1 (List.mem_takeWhile_imp hc)
    have hafter : ∀ c ∈ (spec.dropWhile Text.isAsciiWord).head?, ¬IsWord c := by
      intro c hc hw
      have hnot := List.head?_dropWhile_not Text.isAsciiWord spec
      rw [Option.mem_def.1 hc] at hnot
      exact absurd (isAsciiWord_iff.2 hw) (by simp [hnot])
    have hsplit := List.takeWhile_append_dropWhile (p := Text.isAsciiWord) (l := spec)
    rw [← hsplit] at h
    obtain ⟨hname, hnil | ⟨setting, he, hsetting⟩⟩ := (validator_append hword hafter).1 h
    · rw [← hsplit, hnil, List.append_nil]
      exact .bare hname
    · rw [← hsplit, he]
      exact .set hname hsetting
  · intro h
    cases h with
    | bare name_ok =>
      have hword := (identifier_iff.1 name_ok).2
      have hend : ∀ c ∈ ([] : Text).head?, ¬IsWord c := by simp
      rw [← List.append_nil spec]
      exact (validator_append hword hend).2 ⟨name_ok, .inl rfl⟩
    | @set name setting name_ok setting_ok =>
      have hword := (identifier_iff.1 name_ok).2
      have hparen : ∀ c ∈ ('(' :: (setting ++ [')'])).head?, ¬IsWord c := by
        simpa using not_isWord_paren
      exact (validator_append hword hparen).2 ⟨name_ok, .inr ⟨setting, rfl, setting_ok⟩⟩

/-! ## Heads and bodies -/

theorem isName_iff : isName name = true ↔ Name name := by
  constructor
  · intro h
    cases name with
    | nil => cases h
    | cons c more =>
      simp only [isName, isLetter, Bool.and_eq_true, List.all_eq_true, isAsciiWord_iff] at h
      exact ⟨h.1, h.2⟩
  · rintro ⟨first, later⟩
    simp only [isName, isLetter, Bool.and_eq_true, List.all_eq_true, isAsciiWord_iff]
    exact ⟨first, later⟩

theorem word_of_name (h : Name name) : ∀ c ∈ name, IsWord c := by
  obtain ⟨first, later⟩ := h
  exact List.forall_mem_cons.2 ⟨.inl (by simp [Char.isAlphanum, first]), later⟩

theorem notMem_of_word {c : Char} (h : ∀ c ∈ t, IsWord c) (hc : ¬IsWord c) : c ∉ t :=
  fun hmem => hc (h c hmem)

theorem notMem_of_name (h : Name name) : '=' ∉ name :=
  notMem_of_word (word_of_name h) (by decide)

theorem nameAndDefault_succeeds :
    (∃ value, nameAndDefault head = .ok (name, value)) ↔ Head head name := by
  unfold nameAndDefault
  constructor
  · rintro ⟨value, h⟩
    split at h
    · cases h
    · rename_i name' value' hne hcut
      obtain ⟨rfl, hfirst⟩ := Text.cut?_eq_some.1 hcut
      cases h
      exact .default hne hfirst
    · split at h
      · rename_i hname
        cases h
        exact .bare (isName_iff.1 hname)
      · cases h
  · intro h
    cases h with
    | bare name_ok =>
      rw [Text.cut?_eq_none.2 (notMem_of_name name_ok)]
      dsimp only
      rw [if_pos (isName_iff.2 name_ok)]
      exact ⟨_, rfl⟩
    | default ne_nil first =>
      rw [Text.cut?_append first]
      obtain ⟨c, more, rfl⟩ := List.exists_cons_of_ne_nil ne_nil
      exact ⟨_, rfl⟩

theorem placeholder_eq_ok {rule : Rule} : placeholder body = .ok (name, rule) ↔
    ∃ value base, nameAndDefault (headAndSpec body).1 = .ok (name, value) ∧
      (headAndSpec body).2.elim (.ok (Rule.of (usualValidator name))) validator = .ok base ∧
      rule = { base with default := value } := by
  unfold placeholder
  obtain ⟨head, spec⟩ := headAndSpec body
  dsimp only
  constructor
  · intro h
    obtain ⟨⟨name', value⟩, hvalue, h⟩ := bind_eq_ok.1 h
    cases spec with
    | none =>
      cases h
      exact ⟨value, _, hvalue, rfl, rfl⟩
    | some spec =>
      obtain ⟨base, hbase, h⟩ := bind_eq_ok.1 h
      cases h
      exact ⟨value, base, hvalue, hbase, rfl⟩
  · rintro ⟨value, base, hvalue, hbase, rfl⟩
    refine bind_eq_ok.2 ⟨_, hvalue, ?_⟩
    cases spec with
    | none =>
      cases hbase
      rfl
    | some spec => exact bind_eq_ok.2 ⟨base, hbase, rfl⟩

theorem placeholder_of_bare (h : headAndSpec body = (head, none)) :
    (∃ rule, placeholder body = .ok (name, rule)) ↔ Head head name := by
  simp only [placeholder_eq_ok, h, ← nameAndDefault_succeeds]
  constructor
  · rintro ⟨_, value, _, hvalue, -⟩
    exact ⟨value, hvalue⟩
  · rintro ⟨value, hvalue⟩
    exact ⟨_, value, _, hvalue, rfl, rfl⟩

theorem placeholder_of_checked (h : headAndSpec body = (head, some spec)) :
    (∃ rule, placeholder body = .ok (name, rule)) ↔ Head head name ∧ Spec spec := by
  simp only [placeholder_eq_ok, h, ← nameAndDefault_succeeds, ← validator_succeeds]
  constructor
  · rintro ⟨_, value, base, hvalue, hbase, -⟩
    exact ⟨⟨value, hvalue⟩, base, hbase⟩
  · rintro ⟨⟨value, hvalue⟩, base, hbase⟩
    exact ⟨_, value, base, hvalue, hbase, rfl⟩

/-- A body is read just when it is written as the grammar says, and with the name written there. -/
theorem placeholder_succeeds : (∃ rule, placeholder body = .ok (name, rule)) ↔ Body body name := by
  cases hcut : Text.cut? ':' body with
  | none =>
    have hbare : headAndSpec body = (body, none) := by rw [headAndSpec, hcut]
    have hcolon := Text.cut?_eq_none.1 hcut
    rw [placeholder_of_bare hbare]
    constructor
    · intro h
      exact .bare h hcolon
    · intro h
      cases h with
      | bare head_ok _ => exact head_ok
      | checked _ _ _ => simp at hcolon
  | some cut =>
    obtain ⟨head, spec⟩ := cut
    have hchecked : headAndSpec body = (head, some spec) := by rw [headAndSpec, hcut]
    rw [placeholder_of_checked hchecked]
    constructor
    · rintro ⟨hhead, hspec⟩
      obtain ⟨rfl, hfirst⟩ := Text.cut?_eq_some.1 hcut
      exact .checked hhead hfirst hspec
    · intro h
      cases h with
      | bare _ no_colon =>
        rw [Text.cut?_eq_none.2 no_colon] at hcut
        cases hcut
      | checked head_ok first spec_ok =>
        rw [Text.cut?_append first] at hcut
        cases hcut
        exact ⟨head_ok, spec_ok⟩

/-! ## Defaults -/

theorem default_subset_head {value : Text}
    (h : nameAndDefault head = .ok (name, some value)) : value ⊆ head := by
  unfold nameAndDefault at h
  split at h
  · cases h
  · rename_i hcut
    cases h
    rw [(Text.cut?_eq_some.1 hcut).1]
    exact List.subset_append_of_subset_right _ (List.subset_cons_self _ _)
  · split at h <;> cases h

theorem headAndSpec_subset : (headAndSpec body).1 ⊆ body := by
  unfold headAndSpec
  split
  · rename_i hcut
    rw [(Text.cut?_eq_some.1 hcut).1]
    exact List.subset_append_left _ _
  · exact List.Subset.refl _

theorem default_subset_body {rule : Rule} {value : Text}
    (h : placeholder body = .ok (name, rule)) (hv : rule.default = some value) : value ⊆ body := by
  obtain ⟨value', base, hhead, -, rfl⟩ := placeholder_eq_ok.1 h
  obtain rfl : value' = some value := hv
  exact List.Subset.trans (default_subset_head hhead) headAndSpec_subset

end Pattern

end PathRouting
