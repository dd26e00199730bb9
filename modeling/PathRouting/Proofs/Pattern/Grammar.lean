import PathRouting.Proofs.Path
import PathRouting.Proofs.Pattern.Placeholder

/-! # How patterns are written

The grammar of patterns, over the grammar of placeholders.  A pattern is read just when it is
written so: no text outside the grammar gets through, and none inside it is turned away.
-/

namespace PathRouting

namespace Grammar

/-- Without angle brackets. -/
def Plain (t : Text) : Prop := '<' ∉ t ∧ '>' ∉ t

/-- Plain text, and bodies in angle brackets between plain texts. -/
inductive Template : Text → List Text → Prop
  | text {lit : Text} (plain : Plain lit) : Template lit []
  | slot {lit body rest : Text} {bodies : List Text} (lit_plain : Plain lit)
      (body_plain : Plain body) (rest_ok : Template rest bodies) :
      Template (lit ++ '<' :: (body ++ '>' :: rest)) (body :: bodies)

/-- A segment, and the names of its placeholders. -/
inductive Slots : Text → List Text → Prop
  | plain {raw : Text} (plain : Plain raw) : Slots raw []
  | slotted {raw : Text} {bodies names : List Text} (template : Template raw bodies)
      (ne_nil : bodies ≠ []) (bodies_ok : List.Forall₂ Body bodies names) : Slots raw names

/-- What is left of the pieces between slashes without those that name nothing. -/
def segments (pattern : Text) : List Text :=
  (Text.split '/' pattern).filter fun p => p ≠ [] ∧ p ≠ ".".toList

/-- A star stands only in a rest marker at the end. -/
def Starred (raws : List Text) : Prop :=
  ∀ front raw back, raws = front ++ raw :: back → '*' ∈ raw → raw = "*pathInfo".toList ∧ back = []

/-- How a pattern is written. -/
structure Written (pattern : Text) : Prop where
  no_parent : "..".toList ∉ Text.split '/' pattern
  not_deep : (segments pattern).length < 65535
  starred : Starred (segments pattern)
  slots : ∃ names, List.Forall₂ Slots (segments pattern) names ∧ names.flatten.Nodup ∧
    names.flatten.length ≤ 255 ∧
    ("*pathInfo".toList ∈ segments pattern → "pathInfo".toList ∉ names.flatten)

end Grammar

namespace Pattern

open Grammar

variable {c : Char} {t raw lit body : Text} {ms : List Mark} {names names' ns : List Text}

/-! ## Marks -/

def Mark.body? : Mark → Option Text
  | .text _ => none
  | .body b => some b

def bodies (ms : List Mark) : List Text := ms.filterMap Mark.body?

theorem bodies_withChar : bodies (withChar c ms) = bodies ms := by
  unfold withChar
  split <;> rfl

theorem marks_cons (h : c ≠ '<' ∧ c ≠ '>') :
    marks (c :: t) = (withChar c (marks t).1, (marks t).2) := by
  rw [marks, if_neg h.1, if_neg h.2]

theorem bodyMarks_cons (h : c ≠ '<' ∧ c ≠ '>') :
    bodyMarks (c :: t) = (withBodyChar c (bodyMarks t).1, (bodyMarks t).2) := by
  rw [bodyMarks, if_neg h.1, if_neg h.2]

theorem plain_nil : Plain [] := ⟨List.not_mem_nil, List.not_mem_nil⟩

theorem plain_cons : Plain (c :: t) ↔ (c ≠ '<' ∧ c ≠ '>') ∧ Plain t := by
  unfold Plain
  grind

theorem marks_append (h : Plain lit) :
    bodies (marks (lit ++ t)).1 = bodies (marks t).1 ∧ (marks (lit ++ t)).2 = (marks t).2 := by
  induction lit with
  | nil => exact ⟨rfl, rfl⟩
  | cons c lit ih =>
    obtain ⟨hc, hlit⟩ := plain_cons.1 h
    rw [List.cons_append, marks_cons hc, bodies_withChar]
    exact ih hlit

theorem bodyMarks_append (h : Plain body) :
    bodyMarks (body ++ '>' :: t) = (.body body :: (marks t).1, (marks t).2) := by
  induction body with
  | nil => simp [bodyMarks]
  | cons c body ih =>
    obtain ⟨hc, hbody⟩ := plain_cons.1 h
    rw [List.cons_append, bodyMarks_cons hc, ih hbody]
    rfl

theorem marks_of_template {bs : List Text} (h : Template raw bs) :
    bodies (marks raw).1 = bs ∧ (marks raw).2 = none := by
  induction h with
  | @text lit plain =>
    have hnil := marks_append (t := []) plain
    rw [List.append_nil] at hnil
    exact hnil
  | @slot lit body rest bs lit_plain body_plain _ ih =>
    obtain ⟨hbodies, hfault⟩ := marks_append (t := '<' :: (body ++ '>' :: rest)) lit_plain
    have hopen : marks ('<' :: (body ++ '>' :: rest)) =
        (.body body :: (marks rest).1, (marks rest).2) := by
      rw [marks, if_pos rfl, bodyMarks_append body_plain]
    rw [hbodies, hfault, hopen]
    exact ⟨congrArg (body :: ·) ih.1, ih.2⟩

theorem template_cons {bs : List Text} (hc : c ≠ '<' ∧ c ≠ '>') (h : Template t bs) :
    Template (c :: t) bs := by
  cases h with
  | text plain => exact .text (plain_cons.2 ⟨hc, plain⟩)
  | slot lit_plain body_plain rest_ok =>
    exact .slot (plain_cons.2 ⟨hc, lit_plain⟩) body_plain rest_ok

theorem template_and_body (t : Text) :
    ((marks t).2 = none → Template t (bodies (marks t).1)) ∧
      ((bodyMarks t).2 = none → ∃ body rest ms, t = body ++ '>' :: rest ∧ Plain body ∧
        (bodyMarks t).1 = .body body :: ms ∧ Template rest (bodies ms)) := by
  induction t with
  | nil => exact ⟨fun _ => .text plain_nil, nofun⟩
  | cons c t ih =>
    obtain ⟨ihmarks, ihbody⟩ := ih
    by_cases hopen : c = '<'
    · subst hopen
      rw [marks, if_pos rfl]
      refine ⟨fun h => ?_, fun h => ?_⟩
      · obtain ⟨body, rest, ms, rfl, hplain, hms, hrest⟩ := ihbody h
        rw [hms]
        exact Template.slot plain_nil hplain hrest
      · simp [bodyMarks] at h
    by_cases hclose : c = '>'
    · subst hclose
      refine ⟨fun h => ?_, fun h => ?_⟩
      · simp [marks] at h
      · rw [bodyMarks, if_neg (by decide), if_pos rfl] at h ⊢
        exact ⟨[], t, _, rfl, plain_nil, rfl, ihmarks h⟩
    · have hc : c ≠ '<' ∧ c ≠ '>' := ⟨hopen, hclose⟩
      rw [marks_cons hc, bodyMarks_cons hc, bodies_withChar]
      refine ⟨fun h => template_cons hc (ihmarks h), fun h => ?_⟩
      obtain ⟨body, rest, ms, rfl, hplain, hms, hrest⟩ := ihbody h
      refine ⟨c :: body, rest, ms, rfl, plain_cons.2 ⟨hc, hplain⟩, ?_, hrest⟩
      rw [hms, withBodyChar]

theorem template_iff {bs : List Text} :
    Template raw bs ↔ (marks raw).2 = none ∧ bodies (marks raw).1 = bs := by
  constructor
  · intro h
    exact (marks_of_template h).symm
  · rintro ⟨hfault, rfl⟩
    exact (template_and_body raw).1 hfault

theorem plain_iff_of_template {bs : List Text} (h : Template raw bs) : Plain raw ↔ bs = [] := by
  cases h with
  | text plain => simp [plain]
  | slot => simp [Plain]

theorem body_subset (t : Text) : (∀ b ∈ bodies (marks t).1, b ⊆ t) ∧
    ∀ b ∈ bodies (bodyMarks t).1, b ⊆ t := by
  induction t with
  | nil => exact ⟨nofun, nofun⟩
  | cons c t ih =>
    obtain ⟨ihmarks, ihbody⟩ := ih
    have hmarks : ∀ b ∈ bodies (marks t).1, b ⊆ c :: t :=
      fun b hb => List.subset_cons_of_subset c (ihmarks b hb)
    have hbody : ∀ b ∈ bodies (bodyMarks t).1, b ⊆ c :: t :=
      fun b hb => List.subset_cons_of_subset c (ihbody b hb)
    by_cases hopen : c = '<'
    · subst hopen
      rw [marks, if_pos rfl, bodyMarks, if_pos rfl]
      exact ⟨hbody, nofun⟩
    by_cases hclose : c = '>'
    · subst hclose
      rw [marks, if_neg hopen, if_pos rfl, bodyMarks, if_neg hopen, if_pos rfl]
      exact ⟨nofun, List.forall_mem_cons.2 ⟨List.nil_subset _, hmarks⟩⟩
    · have hc : c ≠ '<' ∧ c ≠ '>' := ⟨hopen, hclose⟩
      rw [marks_cons hc, bodyMarks_cons hc, bodies_withChar]
      refine ⟨hmarks, ?_⟩
      -- only a mark that is a body already grows by the character
      unfold withBodyChar
      split
      · rename_i body ms hms
        rw [hms] at ihbody
        obtain ⟨hb, hbs⟩ := List.forall_mem_cons.1 ihbody
        refine List.forall_mem_cons.2 ⟨List.cons_subset_cons c hb, fun b hb => ?_⟩
        exact List.subset_cons_of_subset c (hbs b hb)
      · exact hbody

theorem body_of_slot {ps : List Piece} (h : piecesOf ms = some ps) {slot : Text × Rule}
    (hslot : slot ∈ ps.filterMap Piece.slot?) : ∃ b ∈ bodies ms, placeholder b = .ok slot := by
  induction ms generalizing ps with
  | nil =>
    cases h
    cases hslot
  | cons m ms ih =>
    cases m with
    | text text =>
      obtain ⟨ps', hps, rfl⟩ := Option.map_eq_some_iff.1 h
      exact ih hps hslot
    | body body =>
      obtain ⟨name, rule, ps', hb, hps, rfl⟩ := piecesOf_body_eq_some.1 h
      rcases List.mem_cons.1 hslot with rfl | hslot
      · exact ⟨body, List.mem_cons_self, hb⟩
      · obtain ⟨b, hb, hslot⟩ := ih hps hslot
        exact ⟨b, List.mem_cons_of_mem _ hb, hslot⟩

theorem placeholder_of_slot {s : Segment} (h : Segment.ofRaw? raw = some s) {slot : Text × Rule}
    (hslot : slot ∈ s.slots) : ∃ b ∈ bodies (marks raw).1, placeholder b = .ok slot := by
  unfold Segment.ofRaw? at h
  split at h
  · cases h
    cases hslot
  · split at h
    · obtain ⟨ps, hps, rfl⟩ := Option.map_eq_some_iff.1 h
      exact body_of_slot hps hslot
    · cases h
      cases hslot

theorem default_subset_raw {s : Segment} (h : Segment.ofRaw? raw = some s) {slot : Text × Rule}
    (hslot : slot ∈ s.slots) {value : Text} (hv : slot.2.default = some value) : value ⊆ raw := by
  obtain ⟨b, hb, hslot⟩ := placeholder_of_slot h hslot
  exact List.Subset.trans (default_subset_body hslot hv) ((body_subset raw).1 b hb)

/-! ## Names -/

/-- The names used so far are different and not too many. -/
structure Fresh (names : List Text) : Prop where
  nodup : names.Nodup
  length_le : names.length ≤ 255

theorem Fresh.of_append {more : List Text} (h : Fresh (more ++ names)) : Fresh names where
  nodup := (List.nodup_append.1 h.nodup).2.1
  length_le := by
    have := h.length_le
    rw [List.length_append] at this
    omega

theorem Fresh.cons_iff {name : Text} (h : Fresh names) :
    Fresh (name :: names) ↔ name ∉ names ∧ names.length < mostNames := by
  constructor
  · rintro ⟨hnodup, hlength⟩
    exact ⟨(List.nodup_cons.1 hnodup).1, hlength⟩
  · rintro ⟨hname, hlength⟩
    exact ⟨List.nodup_cons.2 ⟨hname, h.nodup⟩, hlength⟩

theorem pieces_succeeds (h : Fresh names) : (∃ ps, pieces names ms = .ok (names', ps)) ↔
    ∃ ns, List.Forall₂ Body (bodies ms) ns ∧ names' = ns.reverse ++ names ∧ Fresh names' := by
  induction ms generalizing names with
  | nil =>
    constructor
    · rintro ⟨ps, hps⟩
      cases hps
      exact ⟨[], .nil, rfl, h⟩
    · rintro ⟨ns, hns, rfl, -⟩
      cases hns
      exact ⟨[], rfl⟩
  | cons m ms ih =>
    cases m with
    | text text =>
      refine Iff.trans ?_ (ih h)
      constructor
      · rintro ⟨ps, hps⟩
        obtain ⟨⟨names'', ps'⟩, hp, he⟩ := bind_eq_ok.1 hps
        cases he
        exact ⟨ps', hp⟩
      · rintro ⟨ps', hp⟩
        exact ⟨_, bind_eq_ok.2 ⟨_, hp, rfl⟩⟩
    | body body =>
      constructor
      · rintro ⟨ps, hps⟩
        obtain ⟨name, rule, ps', hb, hn, hm, hp, rfl⟩ := pieces_body_eq_ok.1 hps
        obtain ⟨ns, hns, rfl, hfresh⟩ := (ih (h.cons_iff.2 ⟨hn, hm⟩)).1 ⟨ps', hp⟩
        exact ⟨name :: ns, .cons (placeholder_succeeds.1 ⟨rule, hb⟩) hns, by simp, hfresh⟩
      · rintro ⟨ns, hns, he, hfresh⟩
        obtain _ | @⟨_, name, _, ns, hbody, hns⟩ := hns
        rw [List.reverse_cons, List.append_assoc, List.singleton_append] at he
        have hone : Fresh (name :: names) := (he ▸ hfresh).of_append
        obtain ⟨hn, hm⟩ := h.cons_iff.1 hone
        obtain ⟨rule, hb⟩ := placeholder_succeeds.2 hbody
        obtain ⟨ps', hp⟩ := (ih hone).2 ⟨ns, hns, he, hfresh⟩
        exact ⟨_, pieces_body_eq_ok.2 ⟨name, rule, ps', hb, hn, hm, hp, rfl⟩⟩

/-! ## Segments -/

theorem slotted_succeeds (h : Fresh names) : (∃ s, slotted names raw = .ok (names', s)) ↔
    ∃ bs ns, Template raw bs ∧ List.Forall₂ Body bs ns ∧ names' = ns.reverse ++ names ∧
      Fresh names' := by
  constructor
  · rintro ⟨s, hs⟩
    unfold slotted at hs
    obtain ⟨⟨names'', ps⟩, hp, hs⟩ := bind_eq_ok.1 hs
    cases hf : (marks raw).2 with
    | some fault => simp [hf] at hs
    | none =>
      simp only [hf] at hs
      cases hs
      obtain ⟨ns, hns, he, hfresh⟩ := (pieces_succeeds h).1 ⟨ps, hp⟩
      exact ⟨_, ns, template_iff.2 ⟨hf, rfl⟩, hns, he, hfresh⟩
  · rintro ⟨bs, ns, htemplate, hns, he, hfresh⟩
    obtain ⟨hf, rfl⟩ := template_iff.1 htemplate
    obtain ⟨ps, hp⟩ := (pieces_succeeds h).2 ⟨ns, hns, he, hfresh⟩
    refine ⟨.slotted raw ps, bind_eq_ok.2 ⟨_, hp, ?_⟩⟩
    simp only [hf]
    rfl

theorem any_isBracket : raw.any isBracket = false ↔ Plain raw := by
  simp only [List.any_eq_false, isBracket, Bool.or_eq_true, beq_iff_eq, not_or, Plain]
  grind

theorem segment_rest (isLast : Bool) :
    (∃ s, segment names isLast Segment.restText = .ok (names', s)) ↔
      isLast = true ∧ Segment.restName ∉ names ∧ names' = Segment.restName :: names := by
  unfold segment
  cases isLast <;> by_cases hn : Segment.restName ∈ names <;> simp [hn, eq_comm]

theorem segment_succeeds {isLast : Bool} (h : Fresh names) (hraw : raw ≠ Segment.restText) :
    (∃ s, segment names isLast raw = .ok (names', s)) ↔
      '*' ∉ raw ∧ ∃ ns, Slots raw ns ∧ names' = ns.reverse ++ names ∧ Fresh names' := by
  unfold segment
  rw [if_neg hraw]
  by_cases hstar : '*' ∈ raw
  · simp [hstar]
  simp only [List.contains_eq_mem, hstar, decide_false, Bool.false_eq_true, if_false,
    not_false_eq_true, true_and]
  cases hb : raw.any isBracket with
  | false =>
    have hplain := any_isBracket.1 hb
    simp only [Bool.false_eq_true, if_false]
    constructor
    · rintro ⟨s, hs⟩
      cases hs
      exact ⟨[], .plain hplain, rfl, h⟩
    · rintro ⟨ns, hns, rfl, -⟩
      cases hns with
      | plain => exact ⟨_, rfl⟩
      | slotted template ne_nil _ => exact absurd ((plain_iff_of_template template).1 hplain) ne_nil
  | true =>
    have hbracket : ¬Plain raw := by simp [← any_isBracket, hb]
    simp only [if_true]
    rw [slotted_succeeds h]
    constructor
    · rintro ⟨bs, ns, htemplate, hns, he, hfresh⟩
      have hne := mt (plain_iff_of_template htemplate).2 hbracket
      exact ⟨ns, .slotted htemplate hne hns, he, hfresh⟩
    · rintro ⟨ns, hns, he, hfresh⟩
      cases hns with
      | plain plain => exact absurd plain hbracket
      | slotted template _ bodies_ok => exact ⟨_, ns, template, bodies_ok, he, hfresh⟩

/-! ## Whole patterns -/

theorem starred_nil : Starred [] := fun front raw back he => by simp at he

theorem starred_cons {raws : List Text} : Starred (raw :: raws) ↔
    ('*' ∈ raw → raw = Segment.restText ∧ raws = []) ∧ Starred raws := by
  constructor
  · intro h
    exact ⟨h [] raw raws rfl, fun front r back he => h (raw :: front) r back (by simp [he])⟩
  · rintro ⟨hraw, hraws⟩ front r back he
    cases front with
    | nil =>
      obtain ⟨rfl, rfl⟩ := List.cons_eq_cons.1 he
      exact hraw
    | cons _ front => exact hraws front r back (List.cons_eq_cons.1 he).2

theorem segmentsFrom_cons {done : List Segment} {raws : List Text} :
    (∃ ss, segmentsFrom names done (raw :: raws) = .ok ss) ↔
      ∃ names' s, segment names raws.isEmpty raw = .ok (names', s) ∧
        ∃ ss, segmentsFrom names' (s :: done) raws = .ok ss := by
  rw [segmentsFrom]
  cases segment names raws.isEmpty raw with
  | error fault => simp
  | ok used =>
    obtain ⟨names', s⟩ := used
    simp

/-- The names of what is still to be read can be used after the names used so far. -/
def Usable (names : List Text) (raws : List Text) (nss : List (List Text)) : Prop :=
  Fresh (nss.flatten.reverse ++ names) ∧
    (Segment.restText ∈ raws → Segment.restName ∉ nss.flatten.reverse ++ names)

theorem usable_cons {raws : List Text} {nss : List (List Text)} (hraw : raw ≠ Segment.restText) :
    Usable names (raw :: raws) (ns :: nss) ↔ Usable (ns.reverse ++ names) raws nss := by
  have hmem : Segment.restText ∈ raw :: raws ↔ Segment.restText ∈ raws := by
    rw [List.mem_cons, or_iff_right (Ne.symm hraw)]
  unfold Usable
  rw [hmem, List.flatten_cons, List.reverse_append, List.append_assoc]

theorem plain_restText : Plain Segment.restText := by
  unfold Plain
  decide

theorem segmentsFrom_rest {done : List Segment} {raws : List Text} (h : Fresh names) :
    (∃ ss, segmentsFrom names done (Segment.restText :: raws) = .ok ss) ↔
      Starred (Segment.restText :: raws) ∧
        ∃ nss, List.Forall₂ Slots (Segment.restText :: raws) nss ∧
          Usable names (Segment.restText :: raws) nss := by
  rw [segmentsFrom_cons, starred_cons]
  constructor
  · rintro ⟨names', s, hs, -⟩
    obtain ⟨hlast, hname, -⟩ := (segment_rest _).1 ⟨s, hs⟩
    obtain rfl := List.isEmpty_iff.1 hlast
    refine ⟨⟨fun _ => ⟨rfl, rfl⟩, starred_nil⟩, [[]], ?_⟩
    exact ⟨.cons (.plain plain_restText) .nil, h, fun _ => hname⟩
  · rintro ⟨⟨hstar, -⟩, nss, -, -, hname⟩
    obtain ⟨-, rfl⟩ := hstar (by decide)
    have hfree := hname List.mem_cons_self
    rw [List.mem_append, not_or] at hfree
    obtain ⟨s, hs⟩ := (segment_rest true).2 ⟨rfl, hfree.2, rfl⟩
    exact ⟨_, s, hs, _, rfl⟩

theorem segmentsFrom_succeeds {done : List Segment} {raws : List Text} (h : Fresh names) :
    (∃ ss, segmentsFrom names done raws = .ok ss) ↔
      Starred raws ∧ ∃ nss, List.Forall₂ Slots raws nss ∧ Usable names raws nss := by
  induction raws generalizing names done with
  | nil =>
    have husable : Usable names [] [] := ⟨h, fun hmem => absurd hmem List.not_mem_nil⟩
    exact iff_of_true ⟨_, rfl⟩ ⟨starred_nil, [], .nil, husable⟩
  | cons raw raws ih =>
    by_cases hraw : raw = Segment.restText
    · exact hraw ▸ segmentsFrom_rest h
    rw [segmentsFrom_cons, starred_cons]
    constructor
    · rintro ⟨names', s, hs, hss⟩
      obtain ⟨hstar, ns, hns, rfl, hfresh⟩ := (segment_succeeds h hraw).1 ⟨s, hs⟩
      obtain ⟨hstars, nss, hnss, husable⟩ := (ih hfresh).1 hss
      refine ⟨⟨fun h => absurd h hstar, hstars⟩, ns :: nss, .cons hns hnss, ?_⟩
      exact (usable_cons hraw).2 husable
    · rintro ⟨⟨hstar, hstars⟩, nss, hnss, husable⟩
      obtain _ | @⟨_, ns, _, nss, hns, hnss⟩ := hnss
      rw [usable_cons hraw] at husable
      have hfresh : Fresh (ns.reverse ++ names) := husable.1.of_append
      have hplain : '*' ∉ raw := fun h => hraw (hstar h).1
      obtain ⟨s, hs⟩ := (segment_succeeds h hraw).2 ⟨hplain, ns, hns, rfl, hfresh⟩
      exact ⟨_, s, hs, (ih hfresh).2 ⟨hstars, nss, hnss, husable⟩⟩

theorem path_segments_eq (hparent : "..".toList ∉ Text.split '/' t) :
    Path.segments t = some (Grammar.segments t) := by
  refine Path.segments_eq_some.2 ⟨hparent, List.filter_congr fun p _ => ?_⟩
  rw [Bool.eq_iff_iff]
  simp [Path.isIdle]

theorem fresh_reverse : Fresh (names.reverse ++ []) ↔ names.Nodup ∧ names.length ≤ 255 := by
  rw [List.append_nil]
  constructor
  · rintro ⟨hnodup, hlength⟩
    exact ⟨List.nodup_reverse.1 hnodup, by simpa using hlength⟩
  · rintro ⟨hnodup, hlength⟩
    exact ⟨List.nodup_reverse.2 hnodup, by simpa using hlength⟩

/-- A pattern is read without a fault just when it is written as the grammar says. -/
theorem parses_iff_written {pattern : Text} :
    (∃ ss, parse pattern = .ok ss) ↔ Written pattern := by
  simp only [parse_eq_ok]
  unfold read
  have hnil : Fresh [] := ⟨.nil, by decide⟩
  constructor
  · rintro ⟨ss, h⟩
    split at h
    · cases h
    · rename_i raws hraws
      have hparent := (Path.segments_eq_some.1 hraws).1
      obtain rfl := Option.some.inj ((path_segments_eq hparent).symm.trans hraws)
      split at h
      · cases h
      · rename_i hdeep
        obtain ⟨hstars, nss, hnss, hfresh, hname⟩ := (segmentsFrom_succeeds hnil).1 ⟨ss, h⟩
        obtain ⟨hnodup, hlength⟩ := fresh_reverse.1 hfresh
        rw [List.append_nil, List.mem_reverse] at hname
        exact ⟨hparent, Nat.lt_succ_of_le (Nat.le_of_not_gt hdeep), hstars, nss, hnss, hnodup,
          hlength, hname⟩
  · rintro ⟨hparent, hdeep, hstars, nss, hnss, hnodup, hlength, hname⟩
    have hle : ¬(segments pattern).length > mostSegments :=
      Nat.not_lt.2 (Nat.le_of_lt_succ hdeep)
    rw [path_segments_eq hparent]
    dsimp only
    rw [if_neg hle]
    refine (segmentsFrom_succeeds hnil).2
      ⟨hstars, nss, hnss, fresh_reverse.2 ⟨hnodup, hlength⟩, ?_⟩
    rw [List.append_nil, List.mem_reverse]
    exact hname

end Pattern

end PathRouting
