import PathRouting.Pattern.Rule

/-! # Patterns

A pattern is a list of segments.  A segment is plain text, text mixed with placeholders, or the
rest marker `*pathInfo`, which takes whatever is left of a path.
-/

namespace PathRouting

/-- A part of a segment with placeholders: text to find as it stands, or a named slot. -/
inductive Piece where
  | literal (text : Text)
  | slot (name : Text) (rule : Rule)
  deriving DecidableEq

namespace Piece

def slot? : Piece → Option (Text × Rule)
  | .literal _ => none
  | .slot name rule => some (name, rule)

end Piece

inductive Segment where
  | plain (text : Text)
  | slotted (raw : Text) (pieces : List Piece)
  | rest
  deriving DecidableEq

namespace Segment

def restText : Text := "*pathInfo".toList

def restName : Text := "pathInfo".toList

def raw : Segment → Text
  | .plain text => text
  | .slotted raw _ => raw
  | .rest => restText

def pieces : Segment → List Piece
  | .slotted _ pieces => pieces
  | _ => []

def slots (s : Segment) : List (Text × Rule) := s.pieces.filterMap Piece.slot?

def isRest : Segment → Bool
  | .rest => true
  | _ => false

def names (s : Segment) : List Text :=
  match s with
  | .rest => [restName]
  | _ => s.slots.map (·.1)

/-- The slot and default value of a segment that is a single slot with a default. -/
def optional? : Segment → Option (Text × Text)
  | .slotted _ [.slot name rule] => rule.default.map (name, ·)
  | _ => none

end Segment

end PathRouting
