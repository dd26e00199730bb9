import PathRouting.Text.Basic

/-! # Paths

A path is read as the list of its segments: the pieces between slashes, without the empty ones and
the `.` ones.  A path with a `..` piece has no segments at all.
-/

namespace PathRouting

namespace Path

/-- A piece that names nothing: empty, or the current place. -/
def isIdle (piece : Text) : Bool := piece == [] || piece == ".".toList

def isParent (piece : Text) : Bool := piece == "..".toList

def pieces (path : Text) : List Text := Text.split '/' path

/-- The segments of a path, in order; absent when some piece is `..`. -/
def segments (path : Text) : Option (List Text) :=
  if (pieces path).any isParent then none
  else some ((pieces path).filter fun p => !isIdle p)

end Path

end PathRouting
