import PathRouting.Proofs.Pattern.Grammar
import PathRouting.Proofs.Text.Offset

/-! # Scanning segments by offset

A scan goes through a segment once, with the offset of the next character, and cuts texts and bodies
out of it between the offsets of the brackets.  It never asks for a slice that is not there, and it
ends as the reading of the segment does, with the same pieces or the same fault.
-/

namespace PathRouting

namespace Pattern

/-- What ends a scan early. -/
inductive Stop where
  | fault (fault : Fault)
  | outOfBounds
  deriving DecidableEq

/-- The slot of a body, if its name can be used after some others. -/
def newSlot (names : List Text) (body : Text) : Except Fault (Text × Rule) := do
  let (name, rule) ← placeholder body
  if names.contains name then throw (.repeatedName name)
  if names.length ≥ mostNames then throw .tooManyNames
  pure (name, rule)

/-- What has been read, where the text after the last placeholder starts, and where the body of the
placeholder that is open starts. -/
structure Scan where
  names : List Text
  pieces : List Piece
  literalStart : Nat
  opened : Option Nat

namespace Scan

def start (names : List Text) : Scan := ⟨names, [], 0, none⟩

def cut (raw : Text) (start stop : Nat) : Except Stop Text :=
  match Text.slice? raw start stop with
  | some text => .ok text
  | none => .error .outOfBounds

def withText (raw : Text) (s : Scan) (i : Nat) : Except Stop (List Piece) :=
  if s.literalStart < i then do
    let text ← cut raw s.literalStart i
    pure (s.pieces ++ [.literal text])
  else pure s.pieces

def openAt (raw : Text) (s : Scan) (i : Nat) : Except Stop Scan :=
  if s.opened.isSome then .error (.fault .nested)
  else do
    let pieces ← s.withText raw i
    pure { s with pieces, opened := some (i + 1) }

def closeAt (raw : Text) (s : Scan) (i : Nat) : Except Stop Scan :=
  match s.opened with
  | none => .error (.fault .unbalanced)
  | some start => do
    let body ← cut raw start i
    let (name, rule) ← (newSlot s.names body).mapError .fault
    pure ⟨name :: s.names, s.pieces ++ [.slot name rule], i + 1, none⟩

def step (raw : Text) (s : Scan) (i : Nat) (c : Char) : Except Stop Scan :=
  if c = '<' then s.openAt raw i
  else if c = '>' then s.closeAt raw i
  else pure s

def finish (raw : Text) (s : Scan) : Except Stop (List Text × List Piece) :=
  if s.opened.isSome then .error (.fault .unbalanced)
  else do
    let pieces ← s.withText raw (Text.byteLength raw)
    pure (s.names, pieces)

/-- Scan what is left of a segment from an offset on. -/
def run (raw : Text) (s : Scan) (i : Nat) : Text → Except Stop (List Text × List Piece)
  | [] => s.finish raw
  | c :: t => do
    let s ← s.step raw i c
    run raw s (i + c.utf8Size) t

end Scan

/-- A segment with placeholders, read by offsets. -/
def slottedByOffset (names : List Text) (raw : Text) : Except Stop (List Text × Segment) := do
  let (names, pieces) ← (Scan.start names).run raw 0 raw
  pure (names, .slotted raw pieces)

open Grammar

variable {names : List Text} {raw done lit body back t : Text} {ms : List Mark} {ps : List Piece}
  {fault : Option Fault}

/-! ## Marks of plain texts -/

def textMarks (lit : Text) : List Mark := if lit = [] then [] else [.text lit]

theorem bodyMarks_ne_text (t lit : Text) (ms : List Mark) :
    (bodyMarks t).1 ≠ .text lit :: ms := by
  induction t generalizing ms with
  | nil => simp [bodyMarks]
  | cons c t ih =>
    rw [bodyMarks]
    split
    · simp
    split
    · simp
    · dsimp only
      unfold withBodyChar
      split
      · simp
      · exact ih ms

/-- Plain text before marks that do not start with a text is a mark of its own. -/
theorem marks_append_of_ne_text (h : Plain lit) (ht : ∀ t' ms, (marks t).1 ≠ .text t' :: ms) :
    marks (lit ++ t) = (textMarks lit ++ (marks t).1, (marks t).2) := by
  induction lit with
  | nil => rfl
  | cons c lit ih =>
    obtain ⟨hc, hlit⟩ := plain_cons.1 h
    rw [List.cons_append, marks_cons hc, ih hlit]
    cases lit with
    | nil =>
      have hchar : withChar c (marks t).1 = .text [c] :: (marks t).1 := by
        unfold withChar
        split
        · rename_i hms
          exact absurd hms (ht _ _)
        · rfl
      exact congrArg (·, (marks t).2) hchar
    | cons d lit => rfl

theorem marks_of_plain (h : Plain lit) : marks lit = (textMarks lit, none) := by
  have hmarks := marks_append_of_ne_text (t := []) h fun _ _ => (List.cons_ne_nil _ _).symm
  simpa [marks] using hmarks

theorem marks_append_open (h : Plain lit) :
    marks (lit ++ '<' :: t) = (textMarks lit ++ (bodyMarks t).1, (bodyMarks t).2) := by
  have hopen : marks ('<' :: t) = bodyMarks t := by rw [marks, if_pos rfl]
  have hmarks := marks_append_of_ne_text (t := '<' :: t) h (hopen ▸ bodyMarks_ne_text t)
  rwa [hopen] at hmarks

theorem marks_append_close (h : Plain lit) :
    marks (lit ++ '>' :: t) = (textMarks lit, some .unbalanced) := by
  have hclose : marks ('>' :: t) = ([], some .unbalanced) := by
    rw [marks, if_neg (by decide), if_pos rfl]
  have hmarks := marks_append_of_ne_text (t := '>' :: t) h fun t' ms => by simp [hclose]
  rwa [hclose, List.append_nil] at hmarks

theorem bodyMarks_of_plain (h : Plain body) : bodyMarks body = ([], some .unbalanced) := by
  induction body with
  | nil => rfl
  | cons c body ih =>
    obtain ⟨hc, hbody⟩ := plain_cons.1 h
    rw [bodyMarks_cons hc, ih hbody]
    rfl

theorem bodyMarks_append_open (h : Plain body) :
    bodyMarks (body ++ '<' :: t) = ([], some .nested) := by
  induction body with
  | nil => rw [List.nil_append, bodyMarks, if_pos rfl]
  | cons c body ih =>
    obtain ⟨hc, hbody⟩ := plain_cons.1 h
    rw [List.cons_append, bodyMarks_cons hc, ih hbody]
    rfl

theorem plain_append_singleton {c : Char} (hc : c ≠ '<' ∧ c ≠ '>') (h : Plain lit) :
    Plain (lit ++ [c]) := by
  unfold Plain at *
  grind

/-! ## Reading marks after pieces -/

def readMarks (names : List Text) (ms : List Mark × Option Fault) :
    Except Fault (List Text × List Piece) := do
  let (names, ps) ← pieces names ms.1
  match ms.2 with
  | some fault => throw fault
  | none => pure (names, ps)

/-- What a scan with some pieces behind it gives if it reads on like this. -/
def readAfter (ps : List Piece) (read : Except Fault (List Text × List Piece)) :
    Except Stop (List Text × List Piece) :=
  (read.map fun (names, qs) => (names, ps ++ qs)).mapError .fault

def textPieces (lit : Text) : List Piece := if lit = [] then [] else [.literal lit]

theorem slotted_eq_readMarks : (slotted names raw).mapError Stop.fault =
    readAfter [] (readMarks names (marks raw)) >>=
      fun (names, ps) => pure (names, .slotted raw ps) := by
  simp only [slotted, readMarks, readAfter]
  cases pieces names (marks raw).1 with
  | error fault => rfl
  | ok read =>
    cases (marks raw).2 with
    | none => rfl
    | some fault => rfl

def withPiece (p : Piece) (read : List Text × List Piece) : List Text × List Piece :=
  (read.1, p :: read.2)

theorem readAfter_withPiece (p : Piece) (read : Except Fault (List Text × List Piece)) :
    readAfter ps (read.map (withPiece p)) = readAfter (ps ++ [p]) read := by
  cases read with
  | error fault => rfl
  | ok read => simp [readAfter, withPiece, Except.map, Except.mapError]

theorem readMarks_text : readMarks names (.text lit :: ms, fault) =
    (readMarks names (ms, fault)).map (withPiece (.literal lit)) := by
  simp only [readMarks, pieces]
  cases pieces names ms with
  | error fault => rfl
  | ok read =>
    cases fault with
    | none => rfl
    | some fault => rfl

theorem readMarks_textMarks : readAfter ps (readMarks names (textMarks lit ++ ms, fault)) =
    readAfter (ps ++ textPieces lit) (readMarks names (ms, fault)) := by
  unfold textMarks textPieces
  split
  · rw [List.append_nil, List.nil_append]
  · rw [List.singleton_append, readMarks_text, readAfter_withPiece]

theorem readMarks_nil : readAfter ps (readMarks names ([], none)) = .ok (names, ps) :=
  congrArg (fun qs => Except.ok (names, qs)) (List.append_nil ps)

theorem readMarks_fault {fault : Fault} :
    readAfter ps (readMarks names (textMarks lit, some fault)) = .error (.fault fault) := by
  rw [← List.append_nil (textMarks lit), readMarks_textMarks]
  rfl

theorem pieces_body : pieces names (.body body :: ms) = newSlot names body >>=
    fun (name, rule) => (pieces (name :: names) ms).map (withPiece (.slot name rule)) := by
  simp only [pieces, newSlot]
  cases placeholder body with
  | error fault => rfl
  | ok slot =>
    simp only [bind, Except.bind]
    split
    · rfl
    split
    · rfl
    · rfl

theorem readMarks_of_slot {name : Text} {rule : Rule} (h : newSlot names body = .ok (name, rule)) :
    readAfter ps (readMarks names (.body body :: ms, fault)) =
      readAfter (ps ++ [.slot name rule]) (readMarks (name :: names) (ms, fault)) := by
  have hpieces : pieces names (.body body :: ms) =
      (pieces (name :: names) ms).map (withPiece (.slot name rule)) := by
    rw [pieces_body, h]
    rfl
  rw [← readAfter_withPiece, readMarks, readMarks]
  dsimp only
  rw [hpieces]
  cases pieces (name :: names) ms with
  | error fault => rfl
  | ok read =>
    cases fault with
    | none => rfl
    | some fault => rfl

theorem readMarks_of_no_slot {e : Fault} (h : newSlot names body = .error e) :
    readAfter ps (readMarks names (.body body :: ms, fault)) = .error (.fault e) := by
  simp only [readMarks, pieces_body, h, readAfter]
  rfl

/-! ## The scan step by step -/

namespace Scan

theorem cut_append : cut (done ++ body ++ back) (Text.byteLength done)
    (Text.byteLength (done ++ body)) = .ok body := by
  have hslice : Text.slice? (done ++ body ++ back) (Text.byteLength done)
      (Text.byteLength (done ++ body)) = some body :=
    Text.slice?_eq_some.2 ⟨done, back, rfl, rfl, rfl⟩
  rw [cut, hslice]

theorem withText_append {opened : Option Nat} :
    withText (done ++ lit ++ back) ⟨names, ps, Text.byteLength done, opened⟩
      (Text.byteLength (done ++ lit)) = .ok (ps ++ textPieces lit) := by
  unfold withText textPieces
  by_cases hlit : lit = []
  · subst hlit
    simp [pure, Except.pure]
  · have hpos : 0 < Text.byteLength lit := Nat.pos_of_ne_zero (mt Text.byteLength_eq_zero.1 hlit)
    have hlt : Text.byteLength done < Text.byteLength (done ++ lit) := by
      rw [Text.byteLength_append]
      omega
    rw [if_pos hlt, if_neg hlit, cut_append]
    rfl

theorem run_of_ok {s s' : Scan} {i : Nat} {c : Char} (h : s.step raw i c = .ok s') :
    s.run raw i (c :: t) = s'.run raw (i + c.utf8Size) t := by
  rw [run, h]
  rfl

theorem run_of_error {s : Scan} {i : Nat} {c : Char} {stop : Stop}
    (h : s.step raw i c = .error stop) : s.run raw i (c :: t) = .error stop := by
  rw [run, h]
  rfl

theorem step_of_plain {s : Scan} {i : Nat} {c : Char} (h : c ≠ '<' ∧ c ≠ '>') :
    s.step raw i c = .ok s := by
  rw [step, if_neg h.1, if_neg h.2]
  rfl

theorem step_open (hraw : raw = done ++ lit ++ '<' :: t) :
    step raw ⟨names, ps, Text.byteLength done, none⟩ (Text.byteLength (done ++ lit)) '<' =
      .ok ⟨names, ps ++ textPieces lit, Text.byteLength done,
        some (Text.byteLength (done ++ lit ++ ['<']))⟩ := by
  rw [step, if_pos rfl, openAt, hraw, withText_append, Text.byteLength_append _ ['<']]
  rfl

theorem step_close (hraw : raw = done ++ body ++ '>' :: t) {name : Text} {rule : Rule}
    (h : newSlot names body = .ok (name, rule)) (literalStart : Nat) :
    step raw ⟨names, ps, literalStart, some (Text.byteLength done)⟩
        (Text.byteLength (done ++ body)) '>' =
      .ok ⟨name :: names, ps ++ [.slot name rule], Text.byteLength (done ++ body ++ ['>']),
        none⟩ := by
  rw [step, if_neg (by decide), if_pos rfl, closeAt, hraw, Text.byteLength_append _ ['>']]
  simp only [cut_append, bind, Except.bind, h]
  rfl

theorem step_close_of_error (hraw : raw = done ++ body ++ '>' :: t) {fault : Fault}
    (h : newSlot names body = .error fault) (literalStart : Nat) :
    step raw ⟨names, ps, literalStart, some (Text.byteLength done)⟩
      (Text.byteLength (done ++ body)) '>' = .error (.fault fault) := by
  rw [step, if_neg (by decide), if_pos rfl, closeAt, hraw]
  simp only [cut_append, bind, Except.bind, h]
  rfl

theorem finish_of_closed (hraw : raw = done ++ lit) :
    finish raw ⟨names, ps, Text.byteLength done, none⟩ = .ok (names, ps ++ textPieces lit) := by
  have htext : withText (done ++ lit ++ []) ⟨names, ps, Text.byteLength done, none⟩
      (Text.byteLength (done ++ lit)) = .ok (ps ++ textPieces lit) := withText_append
  rw [List.append_nil] at htext
  rw [finish, if_neg (by simp), hraw, htext]
  rfl

/-- From outside of a placeholder, a scan of the text that is left goes on as its marks are read. -/
def Outside (raw t : Text) : Prop := ∀ done lit names ps, raw = done ++ lit ++ t → Plain lit →
  run raw ⟨names, ps, Text.byteLength done, none⟩ (Text.byteLength (done ++ lit)) t =
    readAfter ps (readMarks names (marks (lit ++ t)))

def Inside (raw t : Text) : Prop := ∀ done body names ps literalStart, raw = done ++ body ++ t →
  Plain body → run raw ⟨names, ps, literalStart, some (Text.byteLength done)⟩
    (Text.byteLength (done ++ body)) t = readAfter ps (readMarks names (bodyMarks (body ++ t)))

theorem outside_nil : Outside raw [] := by
  intro done lit names ps hraw hlit
  rw [List.append_nil] at hraw ⊢
  rw [run, finish_of_closed hraw, marks_of_plain hlit, ← List.append_nil (textMarks lit),
    readMarks_textMarks, readMarks_nil]

theorem inside_nil : Inside raw [] := by
  intro done body names ps literalStart hraw hbody
  rw [List.append_nil, bodyMarks_of_plain hbody]
  rfl

theorem outside_open (h : Inside raw t) : Outside raw ('<' :: t) := by
  intro done lit names ps hraw hlit
  have hin := h (done ++ lit ++ ['<']) [] names (ps ++ textPieces lit) (Text.byteLength done)
    (by simp [hraw]) plain_nil
  rw [List.append_nil, List.nil_append, Text.byteLength_append _ ['<']] at hin
  rw [run_of_ok (step_open hraw), marks_append_open hlit, readMarks_textMarks,
    Text.byteLength_append _ ['<']]
  exact hin

theorem inside_open : Inside raw ('<' :: t) := by
  intro done body names ps literalStart hraw hbody
  have hstep : step raw ⟨names, ps, literalStart, some (Text.byteLength done)⟩
      (Text.byteLength (done ++ body)) '<' = .error (.fault .nested) := by
    rw [step, if_pos rfl]
    rfl
  rw [run_of_error hstep, bodyMarks_append_open hbody]
  rfl

theorem outside_close : Outside raw ('>' :: t) := by
  intro done lit names ps hraw hlit
  have hstep : step raw ⟨names, ps, Text.byteLength done, none⟩
      (Text.byteLength (done ++ lit)) '>' = .error (.fault .unbalanced) := by
    rw [step, if_neg (by decide), if_pos rfl]
    rfl
  rw [run_of_error hstep, marks_append_close hlit, readMarks_fault]

theorem inside_close (h : Outside raw t) : Inside raw ('>' :: t) := by
  intro done body names ps literalStart hraw hbody
  rw [bodyMarks_append hbody]
  cases hslot : newSlot names body with
  | error fault =>
    rw [run_of_error (step_close_of_error hraw hslot literalStart), readMarks_of_no_slot hslot]
  | ok slot =>
    obtain ⟨name, rule⟩ := slot
    have hout := h (done ++ body ++ ['>']) [] (name :: names) (ps ++ [.slot name rule])
      (by simp [hraw]) plain_nil
    rw [List.append_nil, List.nil_append, Text.byteLength_append _ ['>']] at hout
    rw [run_of_ok (step_close hraw hslot literalStart), readMarks_of_slot hslot,
      Text.byteLength_append _ ['>']]
    exact hout

theorem outside_plain {c : Char} (hc : c ≠ '<' ∧ c ≠ '>') (h : Outside raw t) :
    Outside raw (c :: t) := by
  intro done lit names ps hraw hlit
  have hout := h done (lit ++ [c]) names ps (by simp [hraw]) (plain_append_singleton hc hlit)
  rw [← List.append_assoc, Text.byteLength_append _ [c], List.append_assoc lit] at hout
  rw [run_of_ok (step_of_plain hc)]
  exact hout

theorem inside_plain {c : Char} (hc : c ≠ '<' ∧ c ≠ '>') (h : Inside raw t) :
    Inside raw (c :: t) := by
  intro done body names ps literalStart hraw hbody
  have hin := h done (body ++ [c]) names ps literalStart (by simp [hraw])
    (plain_append_singleton hc hbody)
  rw [← List.append_assoc, Text.byteLength_append _ [c], List.append_assoc body] at hin
  rw [run_of_ok (step_of_plain hc)]
  exact hin

theorem outside_and_inside (raw t : Text) : Outside raw t ∧ Inside raw t := by
  induction t with
  | nil => exact ⟨outside_nil, inside_nil⟩
  | cons c t ih =>
    obtain ⟨hout, hin⟩ := ih
    by_cases hopen : c = '<'
    · exact hopen ▸ ⟨outside_open hin, inside_open⟩
    by_cases hclose : c = '>'
    · exact hclose ▸ ⟨outside_close, inside_close hout⟩
    · exact ⟨outside_plain ⟨hopen, hclose⟩ hout, inside_plain ⟨hopen, hclose⟩ hin⟩

end Scan

theorem slottedByOffset_eq (names : List Text) (raw : Text) :
    slottedByOffset names raw = (slotted names raw).mapError .fault := by
  have hrun : (Scan.start names).run raw 0 raw = readAfter [] (readMarks names (marks raw)) :=
    (Scan.outside_and_inside raw raw).1 [] [] names [] rfl plain_nil
  rw [slottedByOffset, hrun, slotted_eq_readMarks]

end Pattern

end PathRouting
