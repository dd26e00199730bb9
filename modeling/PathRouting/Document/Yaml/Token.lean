import PathRouting.Document.Yaml.Property
import PathRouting.Document.Yaml.Scalar

/-! # YAML tokens

A document is a list of tokens.  Those that open and close block lists and maps are not written:
they follow from the columns at which entries start, and a key is known as one by the colon after
it.
-/

namespace PathRouting

namespace Yaml

inductive Token where
  | directive (d : Directive)
  | documentStart
  | documentEnd
  | blockList
  | blockMap
  | blockEnd
  | flowList
  | flowListEnd
  | flowMap
  | flowMapEnd
  | comma
  | dash
  | key
  | value
  | alias (name : Text)
  | anchor (name : Text)
  | tag (t : TagName)
  | plain (t : Text)
  | quoted (t : Text)
  deriving DecidableEq

/-- Where a key may have started. -/
structure KeyStart where
  /-- The number of tokens before it. -/
  tokens : Nat
  place : Place
  /-- Whether nothing but a key can start there. -/
  isRequired : Bool

structure Reading where
  place : Place
  tokens : Array Token
  /-- The columns of the open block lists and maps, the innermost first. -/
  columns : List Nat
  /-- For each open flow, the innermost first, and at last for the blocks around them, where a key
  may have started. -/
  keyStarts : List (Option KeyStart)
  /-- Whether a key may start here. -/
  keyAllowed : Bool

namespace Reading

def start (t : Text) : Reading := ⟨.start t, #[], [], [none], true⟩

def inFlow (r : Reading) : Bool := 1 < r.keyStarts.length

def least (r : Reading) : Nat := r.columns.head?.elim 0 (· + 1)

def push (r : Reading) (t : Token) : Reading := { r with tokens := r.tokens.push t }

def insert (r : Reading) (index : Nat) (t : Token) : Reading :=
  { r with tokens := r.tokens.insertIdxIfInBounds index t }

def setKeyStart (r : Reading) (k : Option KeyStart) : Reading :=
  { r with keyStarts := k :: r.keyStarts.tail }

/-- Whether what may be a key has to be one still, but can be no more. -/
def missesColon (k : Option KeyStart) : Bool := k.any (·.isRequired)

def dropKey (r : Reading) : Option Reading :=
  if missesColon r.keyStarts.head?.join then none else some (r.setKeyStart none)

def markKey (r : Reading) : Option Reading :=
  if r.keyAllowed then do
    let isRequired := !r.inFlow && r.columns.head? == some r.place.column
    pure ((← r.dropKey).setKeyStart (some ⟨r.tokens.size, r.place, isRequired⟩))
  else some r

/-- Keys that started on an earlier line or more than 1024 characters ago are none. -/
def dropOldKeys (r : Reading) : Option Reading := do
  let isOld (k : KeyStart) : Bool :=
    k.place.line < r.place.line || k.place.index + 1024 < r.place.index
  let keyStarts ← r.keyStarts.mapM fun k =>
    if k.any isOld then if missesColon k then none else some none else some k
  pure { r with keyStarts }

/-- Close the blocks that start after a column; all of them if there is none. -/
def closeBlocks (r : Reading) (column? : Option Nat) : Reading :=
  if r.inFlow then r
  else
    let isInside (c : Nat) : Bool := column?.all (· < c)
    let closed := (r.columns.takeWhile isInside).length
    { r with
      columns := r.columns.drop closed
      tokens := r.tokens ++ List.replicate closed Token.blockEnd }

/-- Open a block at a column, with its token in front of some others, if it is inside the innermost
one. -/
def openBlock (r : Reading) (column index : Nat) (t : Token) : Reading :=
  if r.inFlow ∨ column < r.least then r
  else
    let columns := column :: r.columns
    { r.insert index t with columns }

/-- Go on to where the next token starts.  Tabs are blanks where no key may start, and so is a byte-order
mark at the start of a line. -/
def toNext (inFlow : Bool) (keyAllowed inComment : Bool) (line column index : Nat) :
    Text → Place × Bool
  | [] => (⟨line, column, index, []⟩, keyAllowed)
  | c :: t =>
    if isBreak c then toNext inFlow (keyAllowed || !inFlow) false (line + 1) 0 (index + 1) t
    else if inComment || c == ' ' || (c == '\t' && (inFlow || !keyAllowed)) ||
        (c == '\ufeff' && column == 0) then
      toNext inFlow keyAllowed inComment line (column + 1) (index + 1) t
    else if c = '#' then toNext inFlow keyAllowed true line (column + 1) (index + 1) t
    else (⟨line, column, index, c :: t⟩, keyAllowed)

def take (r : Reading) (t : Token) (n : Nat) : Reading :=
  let place := r.place.skip n
  { r.push t with place }

/-- A token on its own at the margin, which closes all blocks. -/
def marginal (r : Reading) (t : Token) (place : Place) : Option Reading := do
  let r ← (r.closeBlocks none).dropKey
  pure { r.push t with place, keyAllowed := false }

def openFlow (r : Reading) (t : Token) : Option Reading := do
  let r ← r.markKey
  let keyStarts := none :: r.keyStarts
  pure { r.take t 1 with keyStarts, keyAllowed := true }

def closeFlow (r : Reading) (t : Token) : Option Reading := do
  let r ← r.dropKey
  let keyStarts := if r.inFlow then r.keyStarts.tail else r.keyStarts
  pure { r.take t 1 with keyStarts, keyAllowed := false }

def comma (r : Reading) : Option Reading := do
  pure { (← r.dropKey).take .comma 1 with keyAllowed := true }

/-- An entry of a list, or a key that is marked as one, which may open a block in `opening`. -/
def entry (r : Reading) (opening t : Token) (keyAllowed : Bool) : Option Reading := do
  if !r.inFlow && !r.keyAllowed then none
  let r ← (r.openBlock r.place.column r.tokens.size opening).dropKey
  pure { r.take t 1 with keyAllowed }

/-- A colon, which makes a key of what has started as one. -/
def colon (r : Reading) : Option Reading :=
  match r.keyStarts.head?.join with
  | some k =>
    let r := (r.insert k.tokens .key).openBlock k.place.column k.tokens .blockMap
    some { (r.setKeyStart none).take .value 1 with keyAllowed := false }
  | none =>
    if !r.inFlow && !r.keyAllowed then none
    else
      let keyAllowed := !r.inFlow
      let r := r.openBlock r.place.column r.tokens.size .blockMap
      some { r.take .value 1 with keyAllowed }

/-- A token that may start a key, read from the next character on. -/
def keyPart {α : Type} (r : Reading) (token : α → Token) (read : Place → Option (α × Place)) :
    Option Reading := do
  let r ← r.markKey
  let (a, place) ← read r.place
  pure { r.push (token a) with place, keyAllowed := false }

def block (r : Reading) (isFolded : Bool) (fuel : Nat) : Option Reading := do
  let r ← r.dropKey
  let (t, place) ← block? isFolded r.least fuel r.place.next
  pure { r.push (.quoted t) with place, keyAllowed := true }

def plain (r : Reading) (fuel : Nat) : Option Reading := do
  let r ← r.markKey
  let s ← plain? r.inFlow r.least fuel [] ⟨[], false, r.place⟩
  pure { r.push (.plain s.text) with place := s.place, keyAllowed := s.onNewLine }

def token (r : Reading) (fuel : Nat) : Option Reading :=
  let p := r.place
  if p.column = 0 ∧ p.rest.head? = some '%' then do
    let (d, q) ← directive? p
    r.marginal (.directive d) q
  else if p.isAtMarker then
    r.marginal (if p.rest.head? = some '-' then .documentStart else .documentEnd) (p.skip 3)
  else
    let isAlone := r.inFlow || isBlankNext (p.rest.drop 1)
    match p.rest.head? with
    | some '[' => r.openFlow .flowList
    | some '\x7b' => r.openFlow .flowMap
    | some ']' => r.closeFlow .flowListEnd
    | some '\x7d' => r.closeFlow .flowMapEnd
    | some ',' => r.comma
    | some '*' => r.keyPart .alias (anchorName? ·.next)
    | some '&' => r.keyPart .anchor (anchorName? ·.next)
    | some '!' => r.keyPart .tag (tagName? r.inFlow)
    | some '\'' => r.keyPart .quoted (quoted? '\'' fuel [] ·.next)
    | some '"' => r.keyPart .quoted (quoted? '"' fuel [] ·.next)
    | some c =>
      if c = '-' ∧ isBlankNext (p.rest.drop 1) then r.entry .blockList .dash true
      else if c = '?' ∧ isAlone then r.entry .blockMap .key (!r.inFlow)
      else if c = ':' ∧ isAlone then r.colon
      else if (c = '|' ∨ c = '>') ∧ !r.inFlow then r.block (c = '>') fuel
      else if startsPlain r.inFlow p.rest then r.plain fuel
      else none
    | none => none

/-- All tokens from this place on.  `fuel` bounds their number, and `length` that of the characters
of each. -/
def tokens? (length : Nat) : Nat → Reading → Option (List Token)
  | 0, _ => none
  | fuel + 1, r => do
    let p := r.place
    let (place, keyAllowed) :=
      toNext r.inFlow r.keyAllowed false p.line p.column p.index p.rest
    let r ← { r with place, keyAllowed }.dropOldKeys
    let r := r.closeBlocks (some place.column)
    if place.rest = [] then
      let r ← (r.closeBlocks none).dropKey
      pure r.tokens.toList
    else tokens? length fuel (← r.token (length + 1))

end Reading

def Token.ofText? (t : Text) : Option (List Token) :=
  let length := t.length
  Reading.tokens? length (length + 1) (.start t)

end Yaml

end PathRouting
