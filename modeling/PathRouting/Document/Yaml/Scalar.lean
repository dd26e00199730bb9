import PathRouting.Document.Yaml.Place

/-! # YAML scalars

Scalars are plain, between single or double quotes, or blocks of lines.  Where a quoted or plain
scalar goes over several lines a newline becomes a space if no empty line follows it and else is
dropped, and so it does in a folded block between lines that do not start with a blank.
-/

namespace PathRouting

namespace Yaml

/-- What stands for a break and the breaks of the empty lines after it. -/
def folded (first : Char) (others : Text) : Text :=
  if first = '\n' then if others = [] then [' '] else others else first :: others

structure Gap where
  /-- What stands for them. -/
  text : Text
  /-- Whether there are breaks. -/
  breaks : Bool
  place : Place

namespace Gap

/-- The breaks of empty lines from here on, and the place after them and the blanks around them.  A
tab before the column `least` is an error. -/
def emptyLines? (least : Nat) : Nat → Nat → Nat → Text → Option (Text × Place)
  | line, column, index, [] => some ([], ⟨line, column, index, []⟩)
  | line, column, index, c :: t =>
    if isBreak c then
      (emptyLines? least (line + 1) 0 (index + 1) t).map fun (others, p) => (c :: others, p)
    else if !isBlank c then some ([], ⟨line, column, index, c :: t⟩)
    else if c = '\t' ∧ column < least then none
    else emptyLines? least line (column + 1) (index + 1) t

def read? (least : Nat) (p : Place) : Option Gap :=
  let (blanks, p) := p.span isBlank
  match p.rest with
  | [] => some ⟨blanks, false, p⟩
  | c :: _ =>
    if isBreak c then
      let q := p.next
      (emptyLines? least q.line q.column q.index q.rest).map fun (others, p) =>
        ⟨folded c others, true, p⟩
    else some ⟨blanks, false, p⟩

end Gap

/-! ## Plain scalars -/

def isFlowIndicator (c : Char) : Bool := ",[]\x7b\x7d".toList.contains c

def startsPlain (inFlow : Bool) : Text → Bool
  | [] => false
  | '-' :: t => !isBlankNext t
  | '?' :: t => !inFlow && !isBlankNext t
  | ':' :: t => !inFlow && !isBlankNext t
  | c :: _ => !isBlankNext [c] && !isFlowIndicator c && !"#&*!|>'\"%@\x60".toList.contains c

/-- A word of a plain scalar; absent for a colon before an indicator in a flow. -/
def plainWord? (inFlow : Bool) : Text → Option Text
  | [] => some []
  | c :: t =>
    if isBlankNext [c] then some []
    else if inFlow && c == ':' && t.head?.any (fun d => isFlowIndicator d || d == '?') then none
    else if c == ':' && isBlankNext t then some []
    else if inFlow && isFlowIndicator c then some []
    else (plainWord? inFlow t).map (c :: ·)

/-- A scalar that has been read: its text, the place after it and after the blanks that follow, and
whether there is a break among these. -/
structure Scanned where
  text : Text
  place : Place
  onNewLine : Bool

/-- A plain scalar, whose lines start at the column `least` or after it if it is not in a flow.
`gap` are the blanks before this place, and `done` holds the text before them, the last character
first. -/
def plain? (inFlow : Bool) (least : Nat) : Nat → Text → Gap → Option Scanned
  | 0, _, _ => none
  | fuel + 1, done, gap => do
    let p := gap.place
    if p.isAtMarker || p.rest.head? == some '#' then pure ⟨done.reverse, p, gap.breaks⟩
    else
      let word ← plainWord? inFlow p.rest
      if word = [] then pure ⟨done.reverse, p, gap.breaks⟩
      else
        let done := word.reverse ++ (gap.text.reverse ++ done)
        let p := p.skip word.length
        if p.rest = [] ∨ !isBlankNext p.rest then pure ⟨done.reverse, p, false⟩
        else
          let gap ← Gap.read? least p
          if !inFlow && gap.place.column < least then
            pure ⟨done.reverse, gap.place, gap.breaks⟩
          else plain? inFlow least fuel done gap

/-! ## Quoted scalars -/

def escape? : Char → Option Char
  | '0' => some '\x00'
  | 'a' => some '\x07'
  | 'b' => some '\x08'
  | 't' => some '\t'
  | '\t' => some '\t'
  | 'n' => some '\n'
  | 'v' => some '\x0b'
  | 'f' => some '\x0c'
  | 'r' => some '\r'
  | 'e' => some '\x1b'
  | ' ' => some ' '
  | '"' => some '"'
  | '/' => some '/'
  | '\\' => some '\\'
  | 'N' => some '\u0085'
  | '_' => some '\u00a0'
  | 'L' => some '\u2028'
  | 'P' => some '\u2029'
  | _ => none

def escapeDigits? : Char → Option Nat
  | 'x' => some 2
  | 'u' => some 4
  | 'U' => some 8
  | _ => none

/-- The character of an escape after its backslash, and the number of characters it takes there. -/
def escaped? : Text → Option (Char × Nat)
  | [] => none
  | c :: t =>
    match escapeDigits? c with
    | some n =>
      if t.length < n then none
      else (Text.hexValue? (t.take n) >>= Text.char?).map (·, n + 1)
    | none => (escape? c).map (·, 1)

/-- A scalar after its opening quote, up to the closing one.  `done` holds the text before this
place, the last character first. -/
def quoted? (quote : Char) : Nat → Text → Place → Option (Text × Place)
  | 0, _, _ => none
  | fuel + 1, done, p =>
    if p.isAtMarker then none
    else match p.rest with
      | [] => none
      | c :: t =>
        if isBlankNext [c] then do
          let gap ← Gap.read? 0 p
          quoted? quote fuel (gap.text.reverse ++ done) gap.place
        else if c = quote then
          if quote = '\'' ∧ t.head? = some '\'' then quoted? quote fuel ('\'' :: done) (p.skip 2)
          else some (done.reverse, p.next)
        else if c = '\\' ∧ quote = '"' then
          if t.head?.any isBreak then do
            let q := p.next.next
            let (others, q) ← Gap.emptyLines? 0 q.line q.column q.index q.rest
            quoted? quote fuel (others.reverse ++ done) q
          else do
            let (c, n) ← escaped? t
            quoted? quote fuel (c :: done) (p.next.skip n)
        else quoted? quote fuel (c :: done) p.next

/-! ## Blocks of lines -/

/-- What becomes of the breaks at the end of a block. -/
inductive Chomping where
  | clip
  | strip
  | keep

def chomping? : Char → Option Chomping
  | '+' => some .keep
  | '-' => some .strip
  | _ => none

/-- Breaks of empty lines at the start of a block or between its lines, and the place where the next
line starts, after its indentation.  `indent?` is the indentation, if it is known, and `deepest` the
deepest column so far. -/
def blockGap? (indent? : Option Nat) (deepest : Nat) :
    Nat → Nat → Nat → Text → Option (Text × Nat × Place)
  | line, column, index, [] => some ([], max deepest column, ⟨line, column, index, []⟩)
  | line, column, index, c :: t =>
    let isBefore := indent?.all (column < ·)
    if c = ' ' ∧ isBefore then blockGap? indent? deepest line (column + 1) (index + 1) t
    else if c = '\t' ∧ isBefore then none
    else if isBreak c then
      (blockGap? indent? (max deepest column) (line + 1) 0 (index + 1) t).map
        fun (others, deepest, p) => (c :: others, deepest, p)
    else some ([], max deepest column, ⟨line, column, index, c :: t⟩)

/-- The lines of a block.  `first` is the break before this place and `others` are the breaks of the
empty lines after that; `wasBlank` says whether the line before starts with a blank. -/
def blockLines? (isFolded : Bool) (chomping : Chomping) (indent : Nat) (wasBlank : Bool) :
    Nat → Text → Text → Place → Option (Text × Place)
  | 0, _, _, _ => none
  | fuel + 1, first, others, p =>
    if p.column ≠ indent ∨ p.rest = [] then
      some (match chomping with
        | .strip => []
        | .clip => first
        | .keep => first ++ others, p)
    else do
      let isBlankLine := p.rest.head?.any isBlank
      let joint :=
        if isFolded && first == ['\n'] && !wasBlank && !isBlankLine then
          if others = [] then [' '] else others
        else first ++ others
      let (content, q) := p.span (!isBreak ·)
      let r := q.next
      let (others, _, s) ← blockGap? (some indent) 0 r.line r.column r.index r.rest
      let (more, s) ← blockLines? isFolded chomping indent isBlankLine fuel (q.rest.take 1) others s
      pure (joint ++ content ++ more, s)

/-- How a block says it is to be read: what becomes of the breaks at its end, and how much deeper
than what is around it its lines start, if it says so. -/
def blockHeader? (p : Place) : Option (Chomping × Option Nat × Place) :=
  let depth? (p : Place) : Option (Option Nat × Place) :=
    match p.rest with
    | c :: _ =>
      if !c.isDigit then some (none, p)
      else if c = '0' then none
      else some (some (c.toNat - '0'.toNat), p.next)
    | [] => some (none, p)
  match p.rest.head?.bind chomping? with
  | some chomping => (depth? p.next).map fun (d, p) => (chomping, d, p)
  | none => do
    let (d, p) ← depth? p
    match d, p.rest.head?.bind chomping? with
    | some d, some chomping => pure (chomping, some d, p.next)
    | d, _ => pure (.clip, d, p)

/-- A block after its indicator.  `least` is the least column at which its lines may start. -/
def block? (isFolded : Bool) (least : Nat) (fuel : Nat) (p : Place) : Option (Text × Place) := do
  let (chomping, depth, p) ← blockHeader? p
  let p ← p.nextLine?
  let known := depth.map (least - 1 + ·)
  let (others, deepest, p) ← blockGap? known 0 p.line p.column p.index p.rest
  let indent := known.getD (max deepest (max least 1))
  blockLines? isFolded chomping indent false fuel [] others p

end Yaml

end PathRouting
