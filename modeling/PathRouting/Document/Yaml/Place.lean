import PathRouting.Text.Basic

/-! # Places in a YAML document

A place knows its line and column, how many characters come before it, and the text after it.
-/

namespace PathRouting

namespace Yaml

def isBlank (c : Char) : Bool := c == ' ' || c == '\t'

/-- Whether a character ends a line, other line ends having been made newlines. -/
def isBreak (c : Char) : Bool := c == '\n' || c == '\u2028' || c == '\u2029'

def isBlankNext : Text → Bool
  | [] => true
  | c :: _ => isBlank c || isBreak c

def isNameChar (c : Char) : Bool := c.isAlphanum || c == '_' || c == '-'

structure Place where
  line : Nat
  column : Nat
  index : Nat
  rest : Text

namespace Place

def start (t : Text) : Place := ⟨0, 0, 0, t⟩

def next (p : Place) : Place :=
  match p.rest with
  | [] => p
  | c :: t =>
    if isBreak c then ⟨p.line + 1, 0, p.index + 1, t⟩
    else ⟨p.line, p.column + 1, p.index + 1, t⟩

/-- The place after the next `n` characters, none of which is a break. -/
def skip (p : Place) (n : Nat) : Place := ⟨p.line, p.column + n, p.index + n, p.rest.drop n⟩

def span (p : Place) (has : Char → Bool) : Text × Place :=
  let run := p.rest.takeWhile has
  (run, p.skip run.length)

def skipWhile (p : Place) (has : Char → Bool) : Place := (p.span has).2

def lineEnd (p : Place) : Place := p.skipWhile (!isBreak ·)

/-- The place after blanks and a comment, if the line ends there, and after that end. -/
def nextLine? (p : Place) : Option Place :=
  let p := p.skipWhile isBlank
  let p := if p.rest.head? = some '#' then p.lineEnd else p
  match p.rest with
  | [] => some p
  | c :: _ => if isBreak c then some p.next else none

/-- Whether a line starts here with three hyphens or dots as a word. -/
def isAtMarker (p : Place) : Bool :=
  p.column == 0 &&
    match p.rest with
    | '-' :: '-' :: '-' :: t => isBlankNext t
    | '.' :: '.' :: '.' :: t => isBlankNext t
    | _ => false

end Place

end Yaml

end PathRouting
