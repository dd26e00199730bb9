import PathRouting.Regex.Basic

/-! # Flags

The flags that hold where an expression is read, and what they make of characters, classes and white
space there.
-/

namespace PathRouting

namespace Regex

structure Flags where
  anyCase : Bool
  multiLine : Bool
  dotAll : Bool
  swapGreed : Bool
  spaced : Bool
  crlf : Bool
  ascii : Bool

namespace Flags

def off : Flags := ⟨false, false, false, false, false, false, false⟩

def set? (f : Flags) (letter : Char) (value : Bool) : Option Flags :=
  match letter with
  | 'i' => some { f with anyCase := value }
  | 'm' => some { f with multiLine := value }
  | 's' => some { f with dotAll := value }
  | 'U' => some { f with swapGreed := value }
  | 'x' => some { f with spaced := value }
  | 'R' => some { f with crlf := value }
  | 'u' => some { f with ascii := !value }
  | _ => none

/-- Read flag letters up to `:` or `)`, which is left.  No letter comes twice, and a hyphen, of
which there is at most one, comes before letters to unset. -/
def read (f : Flags) (used : List Char) (value : Bool) : Text → Option (Flags × List Char × Text)
  | [] => none
  | c :: t =>
    if c = ':' ∨ c = ')' then
      if used.head? = some '-' then none else some (f, used, c :: t)
    else if used.contains c then none
    else if c = '-' then read f ('-' :: used) false t
    else match f.set? c value with
      | some f => read f (c :: used) value t
      | none => none

/-- The text after white space and comments, which run to the end of their line. -/
def skipSpaced (inComment : Bool) : Text → Text
  | [] => []
  | c :: t =>
    if inComment then skipSpaced (c != '\n') t
    else if c = '#' then skipSpaced true t
    else if Text.isBlank c then skipSpaced false t
    else c :: t

theorem length_skipSpaced_le (inComment : Bool) (t : Text) :
    (skipSpaced inComment t).length ≤ t.length := by
  fun_induction skipSpaced inComment t <;> grind

def skip (f : Flags) (t : Text) : Text := if f.spaced then skipSpaced false t else t

theorem length_skip_le (f : Flags) (t : Text) : (f.skip t).length ≤ t.length := by
  unfold skip
  split
  · exact length_skipSpaced_le false t
  · exact Nat.le_refl _

def next? (f : Flags) (t : Text) : Option (Char × Text) :=
  match f.skip t with
  | [] => none
  | c :: t => some (c, t)

theorem length_lt_of_next? {f : Flags} {t rest : Text} {c : Char}
    (h : f.next? t = some (c, rest)) : rest.length < t.length := by
  have hle := f.length_skip_le t
  unfold next? at h
  split at h <;> grind

/-- The set with the characters that the flags do not tell from those in it. -/
def fold (f : Flags) (s : CharSet) : CharSet :=
  if !f.anyCase then s else if f.ascii then s.foldedAscii else s.folded

/-- A set that stands in an expression; without Unicode it has only ASCII characters. -/
def admit? (f : Flags) (s : CharSet) : Option CharSet :=
  if f.ascii && !s.isAscii then none else some s

/-- The set of a class letter, or of the letter's other case if `negated`. -/
def class? (f : Flags) (letter : Char) (negated : Bool) : Option CharSet :=
  let set? := match letter with
    | 'd' => some (if f.ascii then CharSet.asciiDigit else .digit)
    | 'w' => some (if f.ascii then CharSet.asciiWord else .word)
    | 's' => some (if f.ascii then CharSet.asciiBlank else .blank)
    | _ => none
  set?.bind fun s => f.admit? (if negated then s.compl else s)

def dot? (f : Flags) : Option CharSet :=
  let breaks : CharSet :=
    if f.dotAll then .empty else if f.crlf then ⟨[(0xa, 0xa), (0xd, 0xd)]⟩ else .one '\n'
  f.admit? breaks.compl

def literal (f : Flags) (c : Char) : Regex :=
  if f.ascii && 0x80 ≤ c.toNat then .literal [c] else ofSet (f.fold (.one c))

def lineStart (f : Flags) : Anchor := if f.multiLine then .lineStart f.crlf else .textStart

def lineEnd (f : Flags) : Anchor := if f.multiLine then .lineEnd f.crlf else .textEnd

end Flags

end Regex

end PathRouting
