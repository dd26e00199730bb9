import PathRouting.Proofs.Pattern.Compose
import PathRouting.Proofs.Pattern.Scan

/-! # What pieces are written as

A segment with placeholders is written as its pieces are, one after the other: the plain texts as
they stand, and each slot as a body in angle brackets that declares its name and its default.  So
nothing of the segment is lost, and nothing is read twice.
-/

namespace PathRouting

namespace Grammar

/-- What a body says of its placeholder.  The name ends before the first `:` or `=`; the default is
what comes after the first `=`, if that stands before any `:`, up to that `:` or to the end. -/
structure Declares (body name : Text) (default : Option Text) : Prop where
  name_eq : name = body.takeWhile fun c => c != ':' && c != '='
  optional : default.isSome = true ↔ '=' ∈ body.takeWhile (· != ':')
  default_eq : ∀ value, default = some value →
    body.takeWhile (· != ':') = name ++ '=' :: value

end Grammar

namespace Pattern

open Grammar

variable {pattern raw head body lit name : Text} {default : Option Text} {rule : Rule}
  {ms : List Mark} {ps : List Piece} {bs : List Text} {ss : List Segment}

/-! ## Bodies -/

theorem headAndSpec_fst (body : Text) : (headAndSpec body).1 = body.takeWhile (· != ':') := by
  unfold headAndSpec
  cases hcut : Text.cut? ':' body with
  | none => exact (Text.takeWhile_of_notMem (Text.cut?_eq_none.1 hcut)).symm
  | some cut =>
    obtain ⟨rfl, hfirst⟩ := Text.cut?_eq_some.1 hcut
    exact (Text.takeWhile_append_sep hfirst).symm

theorem nameAndDefault_eq_ok (h : nameAndDefault head = .ok (name, default)) :
    name = head.takeWhile (· != '=') ∧ (default.isSome = true ↔ '=' ∈ head) ∧
      ∀ value, default = some value → head = name ++ '=' :: value := by
  unfold nameAndDefault at h
  split at h
  · cases h
  · rename_i hcut
    cases h
    obtain ⟨rfl, hfirst⟩ := Text.cut?_eq_some.1 hcut
    refine ⟨(Text.takeWhile_append_sep hfirst).symm, by simp, fun value hv => ?_⟩
    rw [Option.some.inj hv]
  · rename_i hcut
    split at h
    · cases h
      have hplain := Text.cut?_eq_none.1 hcut
      exact ⟨(Text.takeWhile_of_notMem hplain).symm, iff_of_false nofun hplain, nofun⟩
    · cases h

theorem placeholder_declares (h : placeholder body = .ok (name, rule)) :
    Declares body name rule.default := by
  obtain ⟨default, base, hhead, -, rfl⟩ := placeholder_eq_ok.1 h
  rw [headAndSpec_fst] at hhead
  obtain ⟨hname, hoptional, hdefault⟩ := nameAndDefault_eq_ok hhead
  refine ⟨?_, hoptional, hdefault⟩
  rw [hname, List.takeWhile_takeWhile]
  refine congrArg (List.takeWhile · body) (funext fun c => ?_)
  rw [Bool.decide_and, Bool.decide_eq_true, Bool.decide_eq_true, Bool.and_comm]

/-! ## Pieces -/

/-- How pieces are written: plain texts, with a body in angle brackets between any two of them. -/
inductive Spelled : Text → List Piece → Prop
  | text {lit : Text} (plain : Plain lit) : Spelled lit (textPieces lit)
  | slot {lit body raw name : Text} {rule : Rule} {ps : List Piece} (lit_plain : Plain lit)
      (body_plain : Plain body) (declares : Declares body name rule.default)
      (tail : Spelled raw ps) :
      Spelled (lit ++ '<' :: (body ++ '>' :: raw)) (textPieces lit ++ .slot name rule :: ps)

theorem piecesOf_textMarks (lit : Text) (ms : List Mark) :
    piecesOf (textMarks lit ++ ms) = (piecesOf ms).map (textPieces lit ++ ·) := by
  unfold textMarks textPieces
  split
  · simp
  · rfl

theorem spelled_of_template (h : Template raw bs) (hps : piecesOf (marks raw).1 = some ps) :
    Spelled raw ps := by
  induction h generalizing ps with
  | @text lit plain =>
    rw [marks_of_plain plain, ← List.append_nil (textMarks lit), piecesOf_textMarks] at hps
    obtain rfl : textPieces lit ++ [] = ps := Option.some.inj hps
    rw [List.append_nil]
    exact .text plain
  | @slot lit body rest bs lit_plain body_plain _ ih =>
    rw [marks_append_open lit_plain, bodyMarks_append body_plain, piecesOf_textMarks] at hps
    obtain ⟨ps₁, hps₁, rfl⟩ := Option.map_eq_some_iff.1 hps
    obtain ⟨name, rule, ps₂, hbody, hps₂, rfl⟩ := piecesOf_body_eq_some.1 hps₁
    exact .slot lit_plain body_plain (placeholder_declares hbody) (ih hps₂)

/-- A mark and the piece it is read as. -/
inductive Reads : Mark → Piece → Prop
  | literal (text : Text) : Reads (.text text) (.literal text)
  | slot {body name : Text} {rule : Rule} (plain : Plain body)
      (declares : Declares body name rule.default) : Reads (.body body) (.slot name rule)

theorem reads_textMarks (lit : Text) : List.Forall₂ Reads (textMarks lit) (textPieces lit) := by
  unfold textMarks textPieces
  split
  · exact .nil
  · exact .cons (.literal lit) .nil

theorem flatMap_textMarks (lit : Text) : (textMarks lit).flatMap Mark.raw = lit := by
  unfold textMarks
  split
  · rename_i h
    exact h.symm
  · exact List.flatMap_singleton Mark.raw _

theorem Spelled.exists_marks (h : Spelled raw ps) :
    ∃ ms, List.Forall₂ Reads ms ps ∧ ms.flatMap Mark.raw = raw := by
  induction h with
  | @text lit plain => exact ⟨_, reads_textMarks lit, flatMap_textMarks lit⟩
  | @slot lit body raw name rule ps _ body_plain declares _ ih =>
    obtain ⟨ms, hreads, rfl⟩ := ih
    refine ⟨textMarks lit ++ .body body :: ms, ?_, ?_⟩
    · exact List.rel_append (reads_textMarks lit) (.cons (.slot body_plain declares) hreads)
    · simp [flatMap_textMarks, Mark.raw]

theorem names_of_reads (h : List.Forall₂ Reads ms ps) :
    slotNames ps = (bodies ms).map fun body => body.takeWhile fun c => c != ':' && c != '=' := by
  induction h with
  | nil => rfl
  | cons hread _ ih =>
    cases hread with
    | literal => exact ih
    | slot _ declares => exact congrArg₂ List.cons declares.name_eq ih

theorem mem_textPieces {text : Text} (h : .literal text ∈ textPieces lit) :
    lit ≠ [] ∧ text = lit := by
  unfold textPieces at h
  split at h
  · cases h
  · rename_i hne
    cases List.mem_singleton.1 h
    exact ⟨hne, rfl⟩

theorem Spelled.literal (h : Spelled raw ps) {text : Text} (ht : .literal text ∈ ps) :
    text ≠ [] ∧ Plain text := by
  induction h with
  | text plain =>
    obtain ⟨hne, rfl⟩ := mem_textPieces ht
    exact ⟨hne, plain⟩
  | slot lit_plain _ _ _ ih =>
    rcases List.mem_append.1 ht with ht | ht
    · obtain ⟨hne, rfl⟩ := mem_textPieces ht
      exact ⟨hne, lit_plain⟩
    · rcases List.mem_cons.1 ht with ht | ht
      · cases ht
      · exact ih ht

/-- Of two neighbours one is a slot. -/
def Apart (p p' : Piece) : Prop := p.slot?.isSome = true ∨ p'.slot?.isSome = true

theorem Spelled.apart (h : Spelled raw ps) : ps.IsChain Apart := by
  induction h with
  | text =>
    unfold textPieces
    split <;> simp
  | @slot lit body raw name rule ps _ _ _ _ ih =>
    -- a slot stands between the text before it and whatever comes after
    have hslot : (Piece.slot name rule :: ps).IsChain Apart := by
      cases ps with
      | nil => exact .singleton _
      | cons p ps => exact .cons_cons (.inl rfl) ih
    unfold textPieces
    split
    · exact hslot
    · exact .cons_cons (.inr rfl) hslot

/-! ## Segments -/

theorem read_of_alone {s : Segment} (h : s.Alone) (hs : s ≠ .rest) : '*' ∉ s.raw ∧
    (if s.raw.any isBracket then slotted [] s.raw else .ok ([], .plain s.raw)) =
      .ok (s.names.reverse, s) := by
  have hraw : s.raw ≠ Segment.restText := by
    intro he
    rw [Segment.Alone, he] at h
    exact hs (segment_restText.1 h).2.2.2
  rw [Segment.Alone, segment_of_ne_rest hraw] at h
  split at h
  · cases h
  · rename_i hstar
    exact ⟨by simpa using hstar, h⟩

theorem plain_of_alone (h : (Segment.plain raw).Alone) : Plain raw ∧ '*' ∉ raw := by
  obtain ⟨hstar, h⟩ := read_of_alone h nofun
  split at h
  · obtain ⟨-, ps, -, he⟩ := slotted_iff.1 h
    cases he
  · rename_i hbracket
    rw [Bool.not_eq_true] at hbracket
    exact ⟨any_isBracket.1 hbracket, hstar⟩

theorem spelled_of_alone (h : (Segment.slotted raw ps).Alone) : Spelled raw ps := by
  obtain ⟨-, h⟩ := read_of_alone h nofun
  split at h
  · obtain ⟨hfault, ps', hps, he⟩ := slotted_iff.1 h
    cases he
    exact spelled_of_template (template_iff.2 ⟨hfault, rfl⟩) (pieces_eq_ok hps).1
  · cases (Prod.mk.inj (Except.ok.inj h)).2

/-- Nothing of a pattern is lost: its segments are those of its path, the plain ones have no
brackets and no stars, and the others are written as their pieces, of which no two plain texts are
neighbours.  Each body gives a slot its name and its default. -/
theorem spelled_by_pieces (h : parse pattern = .ok ss) :
    Path.segments pattern = some (ss.map Segment.raw) ∧
    (∀ text, .plain text ∈ ss →
      '<' ∉ text ∧ '>' ∉ text ∧ '*' ∉ text ∧ (Segment.plain text).pieces = []) ∧
    ∀ raw ps, .slotted raw ps ∈ ss →
      (∃ ms, List.Forall₂ Reads ms ps ∧ ms.flatMap Mark.raw = raw ∧
        (Segment.slotted raw ps).slots.map (·.1) =
          (bodies ms).map fun body => body.takeWhile fun c => c != ':' && c != '=') ∧
      (∀ text, .literal text ∈ ps → text ≠ [] ∧ '<' ∉ text ∧ '>' ∉ text) ∧
      ps.IsChain Apart := by
  obtain ⟨hpath, -, hss⟩ := parse_iff.1 h
  refine ⟨hpath, fun text ht => ?_, fun raw ps hps => ?_⟩
  · obtain ⟨hplain, hstar⟩ := plain_of_alone (hss.alone _ ht)
    exact ⟨hplain.1, hplain.2, hstar, rfl⟩
  · have hspelled := spelled_of_alone (hss.alone _ hps)
    obtain ⟨ms, hreads, hraw⟩ := hspelled.exists_marks
    exact ⟨⟨ms, hreads, hraw, names_of_reads hreads⟩, fun text ht => hspelled.literal ht,
      hspelled.apart⟩

/-- A month of a diary, with two slots side by side and no text before the first one. -/
def month : Segment :=
  .slotted "<année=20=24:int(4)><mois>-été".toList
    [.slot "année".toList
        { (Rule.of "int".toList).withLengths 4 4 with default := some "20=24".toList },
      .slot "mois".toList (Rule.of "any".toList), .literal "-été".toList]

theorem month_spelled :
    parse "/<année=20=24:int(4)><mois>-été/".toList = .ok [month] ∧
      Path.segments "/<année=20=24:int(4)><mois>-été/".toList = some [month.raw] ∧
      (∃ ms, List.Forall₂ Reads ms month.pieces ∧ ms.flatMap Mark.raw = month.raw) ∧
      month.pieces.IsChain Apart := by
  have hparse : parse "/<année=20=24:int(4)><mois>-été/".toList = .ok [month] := by
    decide +kernel
  obtain ⟨hpath, -, hslotted⟩ := spelled_by_pieces hparse
  obtain ⟨⟨ms, hreads, hraw, -⟩, -, hapart⟩ := hslotted _ _ (List.mem_singleton_self _)
  exact ⟨hparse, hpath, ⟨ms, hreads, hraw⟩, hapart⟩

end Pattern

end PathRouting
