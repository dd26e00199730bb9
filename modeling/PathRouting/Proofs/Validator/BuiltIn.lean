import PathRouting.Proofs.Dictionary
import PathRouting.Proofs.Text.Cut
import PathRouting.Proofs.Validator.Offset

/-! # What the built-in validators take

Runs are as long as they can be: digits are cut to the largest length, words are taken whole or not
at all.  A choice is the first of the alternatives that stands at the front of the text.
-/

namespace PathRouting

namespace Validator

def IsDigit (c : Char) : Prop := '0' ≤ c ∧ c ≤ '9'

/-- An ASCII letter or digit, or `_`. -/
def IsWord (c : Char) : Prop := ('a' ≤ c ∧ c ≤ 'z') ∨ ('A' ≤ c ∧ c ≤ 'Z') ∨ IsDigit c ∨ c = '_'

/-- The longest front part of a text with characters of one kind only. -/
structure LongestRun (kind : Char → Prop) (t run : Text) : Prop where
  isPrefix : run <+: t
  of_kind : ∀ c ∈ run, kind c
  longest : ∀ s, s <+: t → (∀ c ∈ s, kind c) → s <+: run

/-- The text itself if its length is at least one and within bounds, and else nothing. -/
def whole (rule : Rule) (t : Text) : Text :=
  if 1 ≤ t.length ∧ rule.least ≤ t.length ∧ t.length ≤ rule.most then t else []

/-- The first alternative that is not empty and stands at the front of a text, if there is one. -/
inductive FirstChoice (t : Text) : List Text → Text → Prop
  | found {earlier later : List Text} {choice : Text} (ne_nil : choice ≠ [])
      (isPrefix : choice <+: t) (passed : ∀ a ∈ earlier, a = [] ∨ ¬a <+: t) :
      FirstChoice t (earlier ++ choice :: later) choice
  | none {alternatives : List Text} (passed : ∀ a ∈ alternatives, a = [] ∨ ¬a <+: t) :
      FirstChoice t alternatives []

variable {rule : Rule} {t run s : Text} {kind : Char → Prop} {accepts : Char → Bool}

/-! ## Runs -/

theorem isDigit_iff {c : Char} : c.isDigit = true ↔ IsDigit c := by
  simp [Char.isDigit, IsDigit, Char.le_def]

theorem isAsciiWord_iff {c : Char} : Text.isAsciiWord c = true ↔ IsWord c := by
  have hupper : c.isUpper = decide ('A' ≤ c ∧ c ≤ 'Z') := rfl
  have hlower : c.isLower = (decide ('a' ≤ c) && decide (c ≤ 'z')) := rfl
  have halpha : c.isAlpha = (c.isUpper || c.isLower) := rfl
  simp only [Text.isAsciiWord, Char.isAlphanum, halpha, hupper, hlower, Bool.or_eq_true,
    Bool.and_eq_true, decide_eq_true_eq, beq_iff_eq, isDigit_iff, IsWord]
  tauto

theorem longestRun_takeWhile (h : ∀ c, accepts c = true ↔ kind c) (t : Text) :
    LongestRun kind t (t.takeWhile accepts) where
  isPrefix := List.takeWhile_prefix accepts
  of_kind c hc := (h c).1 (List.mem_takeWhile_imp hc)
  longest s hs hkind := by
    obtain ⟨rest, rfl⟩ := hs
    rw [List.takeWhile_append_of_pos fun c hc => (h c).2 (hkind c hc)]
    exact List.prefix_append _ _

theorem isPrefix_whole (rule : Rule) (t : Text) : whole rule t <+: t := by
  unfold whole
  split
  · exact List.prefix_refl t
  · exact List.nil_prefix

theorem all_eq (rule : Rule) (t : Text) : all rule t = whole rule t := by
  have hiff : (t != [] && rule.admits t.length) = true ↔
      1 ≤ t.length ∧ rule.least ≤ t.length ∧ t.length ≤ rule.most := by
    simp [Rule.admits, Nat.one_le_iff_ne_zero]
  exact if_congr hiff rfl rfl

theorem run_eq (rule : Rule) (t : Text) :
    Validator.run accepts rule t = whole rule (t.takeWhile accepts) := all_eq rule _

theorem digits_eq (rule : Rule) (t : Text) : digits rule t =
    if max 1 rule.least ≤ ((t.takeWhile Char.isDigit).take rule.most).length then
      (t.takeWhile Char.isDigit).take rule.most else [] := by
  unfold digits
  dsimp only
  rw [← List.take_takeWhile]
  generalize (t.takeWhile Char.isDigit).take rule.most = run
  have hiff : (run = [] ∨ run.length < rule.least) ↔ ¬max 1 rule.least ≤ run.length := by
    rw [← List.length_eq_zero_iff]
    omega
  rw [if_congr hiff rfl rfl, ite_not]

/-! ## Choices -/

theorem choice_first (rule : Rule) (t : Text) :
    FirstChoice t (Text.split '|' rule.choices) (choice rule t) := by
  have hpassed {a : Text} : ¬(a ≠ [] ∧ a.isPrefixOf t = true) ↔ a = [] ∨ ¬a <+: t := by
    rw [List.isPrefixOf_iff_prefix]
    tauto
  unfold choice
  simp only [List.find?_filter, bne_iff_ne]
  cases hfind : (Text.split '|' rule.choices).find?
      fun a => decide (a ≠ [] ∧ a.isPrefixOf t = true) with
  | none =>
    refine .none fun a ha => hpassed.1 ?_
    simpa using List.find?_eq_none.1 hfind a ha
  | some choice =>
    obtain ⟨hchoice, earlier, later, halts, hearlier⟩ := List.find?_eq_some_iff_append.1 hfind
    obtain ⟨hne, hpre⟩ := of_decide_eq_true hchoice
    rw [halts]
    exact .found hne (List.isPrefixOf_iff_prefix.1 hpre) fun a ha => by simpa using hearlier a ha

theorem FirstChoice.isPrefix {alternatives : List Text} {choice : Text}
    (h : FirstChoice t alternatives choice) : choice <+: t := by
  cases h with
  | found _ isPrefix _ => exact isPrefix
  | none => exact List.nil_prefix

/-! ## All of them -/

theorem prefix_of_builtIn {name : Text} {validator : Validator}
    (h : Registry.builtIn.get? name = some validator) : validator rule t <+: t := by
  have hrun (accepts : Char → Bool) : Validator.run accepts rule t <+: t := by
    rw [run_eq]
    exact (isPrefix_whole rule _).trans (List.takeWhile_prefix accepts)
  have hmem := Dictionary.mem_of_get?_ofList h
  simp only [List.mem_cons, Prod.mk.injEq, List.not_mem_nil, or_false] at hmem
  rcases hmem with ⟨-, rfl⟩ | ⟨-, rfl⟩ | ⟨-, rfl⟩ | ⟨-, rfl⟩ | ⟨-, rfl⟩ | ⟨-, rfl⟩
  · exact all_eq rule t ▸ isPrefix_whole rule t
  · exact all_eq rule t ▸ isPrefix_whole rule t
  · rw [digits_eq]
    split
    · exact (List.take_prefix _ _).trans (List.takeWhile_prefix _)
    · exact List.nil_prefix
  · exact hrun _
  · exact hrun _
  · exact (choice_first rule t).isPrefix

/-- What each of the built-in validators takes from a text under a rule: the digits at the front up
to the largest length, words and actions as long as they go, all of the text, or the first choice
that fits.  Each takes a front part of the text, and going by bytes comes to the same. -/
theorem builtIn_takes (rule : Rule) (t : Text) :
    (∃ run, LongestRun IsDigit t run ∧ digits rule t =
      if max 1 rule.least ≤ (run.take rule.most).length then run.take rule.most else []) ∧
    (∃ run, LongestRun IsWord t run ∧ word rule t = whole rule run) ∧
    (∃ run, LongestRun (fun c => IsWord c ∨ c = '-') t run ∧ action rule t = whole rule run) ∧
    all rule t = whole rule t ∧
    (∃ alternatives, Text.join '|' alternatives = rule.choices ∧ (∀ a ∈ alternatives, '|' ∉ a) ∧
      FirstChoice t alternatives (choice rule t)) ∧
    (∀ entry ∈ [("any".toList, all), ("string".toList, all), ("int".toList, digits),
        ("word".toList, word), ("action".toList, action), ("enum".toList, choice)],
      Registry.builtIn.get? entry.1 = some entry.2) ∧
    (∀ name validator, Registry.builtIn.get? name = some validator → validator rule t <+: t) ∧
    digitsByOffset rule t = some (digits rule t) ∧ wordByOffset rule t = some (word rule t) ∧
    actionByOffset rule t = some (action rule t) ∧
    choiceByOffset rule t = some (choice rule t) := by
  have hword (c : Char) : Text.isAsciiWord c = true ↔ IsWord c := isAsciiWord_iff
  have haction (c : Char) : (Text.isAsciiWord c || c == '-') = true ↔ IsWord c ∨ c = '-' := by
    rw [Bool.or_eq_true, isAsciiWord_iff, beq_iff_eq]
  refine ⟨⟨_, longestRun_takeWhile (fun c => isDigit_iff) t, digits_eq rule t⟩,
    ⟨_, longestRun_takeWhile hword t, run_eq rule t⟩,
    ⟨_, longestRun_takeWhile haction t, run_eq rule t⟩, all_eq rule t,
    ⟨_, Text.join_split '|' rule.choices, fun a => Text.notMem_of_mem_split,
      choice_first rule t⟩, ?_, fun name validator => prefix_of_builtIn,
    digitsByOffset_eq rule t, wordByOffset_eq rule t, actionByOffset_eq rule t,
    choiceByOffset_eq rule t⟩
  simp only [List.forall_mem_cons, List.not_mem_nil, false_imp_iff, implies_true, and_true]
  exact ⟨rfl, rfl, rfl, rfl, rfl, rfl⟩

example : digits ((Rule.of "int".toList).withLengths 2 3) "1234é".toList = "123".toList ∧
    word ((Rule.of "word".toList).withLengths 2 3) "abcdé".toList = [] := by decide

end Validator

end PathRouting
