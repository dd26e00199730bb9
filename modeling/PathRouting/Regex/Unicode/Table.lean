import PathRouting.Regex.CharSet

/-! # Tables of characters

A table that gives each code a value is written as its runs, from code zero on: the value, which is
a capital and the small letters after it, and the number of codes unless that is one.  A set is
written as its ranges, by the hexadecimal digits of their ends.
-/

namespace PathRouting

namespace Regex

namespace Unicode

/-- Neighbouring codes with the same value. -/
structure Run where
  value : Text
  first : Nat
  last : Nat

/-- The parts that each start with a capital. -/
def cells (t : Text) : List Text := t.splitBy fun _ c => !c.isUpper

def runsFrom (code : Nat) : List Text → List Run
  | [] => []
  | cell :: rest =>
    let count := match cell.dropWhile Char.isAlpha with
      | [] => 1
      | digits => Text.decimalValue digits
    ⟨cell.takeWhile Char.isAlpha, code, code + count - 1⟩ :: runsFrom (code + count) rest

def runs (table : List String) : List Run := runsFrom 0 (cells (table.flatMap String.toList))

/-- The codes to which a table gives one of some values. -/
def having (table : List String) (values : List Text) : CharSet :=
  .ofRanges (((runs table).filter fun r => values.contains r.value).map fun r => (r.first, r.last))

def range? (t : Text) : Option (Nat × Nat) :=
  match Text.cut? '-' t with
  | some (a, b) => do pure (← Text.hexValue? a, ← Text.hexValue? b)
  | none => (Text.hexValue? t).map fun a => (a, a)

def listed (lines : List String) : CharSet :=
  .ofRanges ((lines.flatMap fun l => Text.split ' ' l.toList).filterMap range?)

/-- What stands beside a name, of which there are several to a line. -/
def named? {α : Type} (name : Text) (entries : List (String × α)) : Option α :=
  (entries.find? fun e => (Text.split ' ' e.1.toList).contains name).map (·.2)

end Unicode

end Regex

end PathRouting
