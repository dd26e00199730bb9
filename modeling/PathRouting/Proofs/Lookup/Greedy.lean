import PathRouting.Proofs.Dictionary
import PathRouting.Proofs.Pattern.Reading
import PathRouting.Proofs.Text.Offset
import PathRouting.Tree.Lookup

/-! # Cutting segments greedily

A text fits the pieces of a segment just when it is cut into parts, one for each piece, where a
validator that sees all from its part on says how long the part is.  No two cuts differ, and what
comes after a part never makes it shorter.
-/

namespace PathRouting

namespace Piece

/-- The part that the piece takes where `left` is all from there on. -/
inductive Takes (registry : Registry) (left : Text) : Piece → Text → Prop
  | literal (text : Text) : Takes registry left (.literal text) text
  | slot {name part : Text} {rule : Rule} {validator : Validator}
      (registered : registry.get? rule.validator = some validator) (ne_nil : part ≠ [])
      (length_eq : Text.byteLength part = Text.byteLength (validator rule left)) :
      Takes registry left (.slot name rule) part

/-- The binding that a part makes. -/
def bound : Piece → Text → List Binding
  | .literal _, _ => []
  | .slot name _, part => [(name, part)]

end Piece

namespace Fit

/-- Parts with `left` after them, each of which its piece takes. -/
inductive Cut (registry : Registry) (left : Text) : List Piece → List Text → Prop
  | nil : Cut registry left [] []
  | cons {p : Piece} {ps : List Piece} {part : Text} {parts : List Text}
      (takes : p.Takes registry (part ++ (parts.flatten ++ left)) part)
      (tail : Cut registry left ps parts) : Cut registry left (p :: ps) (part :: parts)

def bound (ps : List Piece) (parts : List Text) : List Binding :=
  (List.zipWith Piece.bound ps parts).flatten

variable {registry : Registry} {p : Piece} {ps front back : List Piece}
  {part part' left left' t t' : Text} {parts parts' : List Text} {bs bs' : List Binding}

/-! ## One piece -/

theorem takes_unique (h : p.Takes registry left part) (h' : p.Takes registry left part')
    (ht : part ++ t = part' ++ t') : part = part' ∧ t = t' := by
  cases h with
  | literal =>
    cases h'
    exact ⟨rfl, List.append_cancel_left ht⟩
  | slot registered _ length_eq =>
    obtain _ | ⟨registered', -, length_eq'⟩ := h'
    obtain rfl := Option.some.inj (registered.symm.trans registered')
    exact Text.append_inj_byteLength ht (length_eq.trans length_eq'.symm)

theorem pieces_of_takes (h : p.Takes registry (part ++ t) part) :
    pieces registry (p :: ps) (part ++ t) bs = pieces registry ps t (bs ++ p.bound part) := by
  cases h with
  | literal =>
    rw [pieces, Text.dropPrefix?_eq_some.2 rfl, Piece.bound, List.append_nil]
  | slot registered ne_nil length_eq =>
    simp only [pieces, registered, ← length_eq, Text.cutBytes?_append, if_neg ne_nil, Piece.bound]

/-- How a piece fares with a text, and the pieces after it. -/
inductive Judged (registry : Registry) (p : Piece) (ps : List Piece) (t : Text)
    (bs : List Binding) : Prop
  | taken {part t' : Text} (ht : t = part ++ t') (takes : p.Takes registry t part)
  | missing {name : Text} {rule : Rule} (hp : p = .slot name rule)
      (unregistered : registry.get? rule.validator = none)
      (ends : pieces registry (p :: ps) t bs = (.unknown rule.validator, bs))
  | refused (none_taken : ∀ part t', t = part ++ t' → ¬p.Takes registry t part)
      (ends : pieces registry (p :: ps) t bs = (.differs, bs))

theorem judged_literal (text : Text) : Judged registry (.literal text) ps t bs := by
  cases hdrop : Text.dropPrefix? t text with
  | some t' => exact .taken (Text.dropPrefix?_eq_some.1 hdrop) (.literal text)
  | none =>
    refine .refused ?_ (by rw [pieces, hdrop])
    rintro _ t' rfl ⟨⟩
    rw [Text.dropPrefix?_eq_some.2 rfl] at hdrop
    cases hdrop

theorem judged_slot (name : Text) (rule : Rule) : Judged registry (.slot name rule) ps t bs := by
  cases hget : registry.get? rule.validator with
  | none => exact .missing rfl hget (by rw [pieces, hget])
  | some validator =>
    -- a part that is taken is what the length of the validator's answer cuts off
    have hcut {part t' : Text} (ht : t = part ++ t')
        (htakes : (Piece.slot name rule).Takes registry t part) :
        part ≠ [] ∧ Text.cutBytes? t (Text.byteLength (validator rule t)) = some (part, t') := by
      obtain _ | ⟨registered, ne_nil, length_eq⟩ := htakes
      obtain rfl := Option.some.inj (hget.symm.trans registered)
      exact ⟨ne_nil, Text.cutBytes?_eq_some.2 ⟨ht, length_eq⟩⟩
    cases h : Text.cutBytes? t (Text.byteLength (validator rule t)) with
    | none =>
      refine .refused (fun part t' ht htakes => ?_) (by simp only [pieces, hget, h])
      cases h.symm.trans (hcut ht htakes).2
    | some cut =>
      obtain ⟨part, t'⟩ := cut
      obtain ⟨ht, hlength⟩ := Text.cutBytes?_eq_some.1 h
      by_cases hpart : part = []
      · refine .refused (fun part' t'' ht' htakes => ?_) (by simp [pieces, hget, h, hpart])
        obtain ⟨ne_nil, he⟩ := hcut ht' htakes
        cases h.symm.trans he
        exact ne_nil hpart
      · exact .taken ht (.slot hget hpart hlength)

theorem judged (registry : Registry) (p : Piece) (ps : List Piece) (t : Text)
    (bs : List Binding) : Judged registry p ps t bs := by
  cases p with
  | literal text => exact judged_literal text
  | slot name rule => exact judged_slot name rule

/-! ## All pieces -/

theorem bound_cons : bound (p :: ps) (part :: parts) = p.bound part ++ bound ps parts := rfl

theorem Cut.unique (h : Cut registry left ps parts) (h' : Cut registry left' ps parts')
    (ht : parts.flatten ++ left = parts'.flatten ++ left') : parts = parts' ∧ left = left' := by
  induction h generalizing parts' with
  | nil =>
    cases h'
    exact ⟨rfl, ht⟩
  | cons takes _ ih =>
    obtain _ | ⟨takes', tail'⟩ := h'
    rw [List.flatten_cons, List.flatten_cons, List.append_assoc, List.append_assoc] at ht
    obtain ⟨rfl, htail⟩ := takes_unique takes (ht ▸ takes') ht
    obtain ⟨rfl, rfl⟩ := ih tail' htail
    exact ⟨rfl, rfl⟩

theorem Cut.pieces_append (h : Cut registry left front parts) :
    pieces registry (front ++ back) (parts.flatten ++ left) bs =
      pieces registry back left (bs ++ bound front parts) := by
  induction h generalizing bs with
  | nil => exact congrArg (pieces registry back left) (List.append_nil bs).symm
  | cons takes _ ih =>
    rw [List.flatten_cons, List.append_assoc, List.cons_append, pieces_of_takes takes, ih,
      bound_cons, List.append_assoc]

theorem fits_iff_cut : pieces registry ps t bs = (.fits, bs') ↔
    ∃ parts, parts.flatten = t ∧ Cut registry [] ps parts ∧ bs' = bs ++ bound ps parts := by
  constructor
  · intro h
    induction ps generalizing t bs with
    | nil =>
      rw [pieces] at h
      split at h
      · rename_i ht
        cases h
        exact ⟨[], ht.symm, .nil, (List.append_nil _).symm⟩
      · cases h
    | cons p ps ih =>
      cases judged registry p ps t bs with
      | missing _ _ ends => cases h.symm.trans ends
      | refused _ ends => cases h.symm.trans ends
      | @taken part t' ht takes =>
        subst ht
        rw [pieces_of_takes takes] at h
        obtain ⟨parts, rfl, hcut, rfl⟩ := ih h
        refine ⟨part :: parts, rfl, .cons ?_ hcut, by rw [bound_cons, List.append_assoc]⟩
        rwa [List.append_nil]
  · rintro ⟨parts, rfl, hcut, rfl⟩
    have hfits : pieces registry (ps ++ []) (parts.flatten ++ []) bs =
        pieces registry [] [] (bs ++ bound ps parts) := hcut.pieces_append
    rw [List.append_nil, List.append_nil] at hfits
    rw [hfits, pieces, if_pos rfl]

theorem unknown_iff_cut {v : Text} : (pieces registry ps t bs).1 = .unknown v ↔
    ∃ front name rule back parts left, ps = front ++ .slot name rule :: back ∧
      rule.validator = v ∧ registry.get? v = none ∧ parts.flatten ++ left = t ∧
        Cut registry left front parts := by
  constructor
  · intro h
    induction ps generalizing t bs with
    | nil =>
      rw [pieces] at h
      split at h <;> cases h
    | cons p ps ih =>
      cases judged registry p ps t bs with
      | @missing name rule hp unregistered ends =>
        rw [ends] at h
        obtain rfl : rule.validator = v := Fit.unknown.inj h
        exact ⟨[], name, rule, ps, [], t, by rw [hp, List.nil_append], rfl, unregistered, rfl,
          .nil⟩
      | refused _ ends =>
        rw [ends] at h
        cases h
      | @taken part t' ht takes =>
        subst ht
        rw [pieces_of_takes takes] at h
        obtain ⟨front, name, rule, back, parts, left, rfl, hv, hget, rfl, hcut⟩ := ih h
        exact ⟨p :: front, name, rule, back, part :: parts, left, rfl, hv, hget,
          by rw [List.flatten_cons, List.append_assoc], .cons takes hcut⟩
  · rintro ⟨front, name, rule, back, parts, left, rfl, rfl, hget, rfl, hcut⟩
    rw [hcut.pieces_append, pieces, hget]

/-! ## Segments of patterns -/

theorem rule_of_name {pattern raw : Text} {ss : List Segment}
    (h : Pattern.parse pattern = .ok ss) (hs : .slotted raw ps ∈ ss) {name : Text} {rule : Rule}
    (hslot : .slot name rule ∈ ps) :
    (Dictionary.ofList (Segment.slotted raw ps).slots).get? name = some rule := by
  have hnodup := (Pattern.read_eq_ok (Pattern.parse_eq_ok.1 h)).2.2.names_nodup
  have hnames : ((Segment.slotted raw ps).slots.map (·.1)).Nodup :=
    (List.nodup_flatMap.1 hnodup).1 _ hs
  exact Dictionary.get?_ofList_of_mem (e := (name, rule)) hnames
    (List.mem_filterMap.2 ⟨_, hslot, rfl⟩)

/-- A segment with placeholders fits a text just when the text is cut into parts that its pieces
take, and binds those of its slots; it meets an unknown validator just when the pieces before have
taken theirs.  There is one cut at most, parts once taken stay as they are, and the rule of a slot
is the one that its name has in the segment. -/
theorem segment_by_cut {pattern raw : Text} {ss : List Segment}
    (h : Pattern.parse pattern = .ok ss) (hs : .slotted raw ps ∈ ss) (registry : Registry)
    (t : Text) (bs : List Binding) :
    (∀ bs', segment registry (.slotted raw ps) t bs = (.fits, bs') ↔
      ∃ parts, parts.flatten = t ∧ Cut registry [] ps parts ∧ bs' = bs ++ bound ps parts) ∧
    (∀ parts parts', parts.flatten = t → parts'.flatten = t → Cut registry [] ps parts →
      Cut registry [] ps parts' → parts = parts') ∧
    (∀ v, (segment registry (.slotted raw ps) t bs).1 = .unknown v ↔
      ∃ front name rule back parts left, ps = front ++ .slot name rule :: back ∧
        rule.validator = v ∧ registry.get? v = none ∧ parts.flatten ++ left = t ∧
          Cut registry left front parts) ∧
    (∀ front back parts left, ps = front ++ back → parts.flatten ++ left = t →
      Cut registry left front parts → segment registry (.slotted raw ps) t bs =
        pieces registry back left (bs ++ bound front parts)) ∧
    ∀ name rule, .slot name rule ∈ ps →
      (Dictionary.ofList (Segment.slotted raw ps).slots).get? name = some rule := by
  refine ⟨fun bs' => fits_iff_cut, ?_, fun v => unknown_iff_cut, ?_,
    fun name rule => rule_of_name h hs⟩
  · rintro parts parts' rfl ht' hcut hcut'
    exact (hcut.unique hcut' (by rw [ht'])).1
  · rintro front back parts left rfl rfl hcut
    exact hcut.pieces_append

/-- An issue of a journal: the month takes what the year leaves, the title all after the hyphen. -/
def issue : Segment :=
  .slotted "<year:int(4)><month:int(2)>-<title>".toList
    [.slot "year".toList ((Rule.of "int".toList).withLengths 4 4),
      .slot "month".toList ((Rule.of "int".toList).withLengths 2 2), .literal "-".toList,
      .slot "title".toList (Rule.of "any".toList)]

/-- Digits alone, so that a title meets no validator. -/
def digitsOnly : Registry := .ofList [("int".toList, Validator.digits)]

theorem issue_cut :
    Pattern.parse "<year:int(4)><month:int(2)>-<title>".toList = .ok [issue] ∧
      segment .builtIn issue "202405-été".toList [] = (.fits, [("year".toList, "2024".toList),
        ("month".toList, "05".toList), ("title".toList, "été".toList)]) ∧
      (segment digitsOnly issue "202405-été".toList []).1 = .unknown "any".toList := by
  have hparse : Pattern.parse "<year:int(4)><month:int(2)>-<title>".toList = .ok [issue] := by
    decide +kernel
  have hissue := segment_by_cut hparse (List.mem_singleton_self _)
  refine ⟨hparse, ?_, ?_⟩
  · refine ((hissue .builtIn _ []).1 _).2
      ⟨["2024".toList, "05".toList, "-".toList, "été".toList], rfl, ?_, rfl⟩
    refine .cons (.slot rfl ?_ ?_) (.cons (.slot rfl ?_ ?_) (.cons (.literal _)
      (.cons (.slot rfl ?_ ?_) .nil)))
    all_goals decide +kernel
  · refine ((hissue digitsOnly _ []).2.2.1 _).2
      ⟨issue.pieces.take 3, "title".toList, Rule.of "any".toList, [],
        ["2024".toList, "05".toList, "-".toList], "été".toList, rfl, rfl, rfl, rfl, ?_⟩
    refine .cons (.slot rfl ?_ ?_) (.cons (.slot rfl ?_ ?_) (.cons (.literal _) .nil))
    all_goals decide +kernel

end Fit

end PathRouting
