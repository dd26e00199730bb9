import PathRouting.Text.Basic

/-! # Files

A directory of files in memory, and nothing known around it.  A path is walked component by
component, and the first one that leads nowhere decides what is wrong with the path.
-/

namespace PathRouting

inductive FileFault where
  | notFound
  /-- There is something, but not a file that can be read, or the path is none. -/
  | notReadable
  deriving DecidableEq

abbrev Files := Text → Except FileFault Text

namespace Files

/-- The text of some bytes.  Bytes that are not UTF-8 cannot be read. -/
def decode (bytes : ByteArray) : Except FileFault Text :=
  (String.fromUTF8? bytes).elim (.error .notReadable) fun s => .ok s.toList

def maxNameLength : Nat := 255

def maxPathLength : Nat := 4095

inductive Place where
  /-- A directory, by the names that lead to it, the last one first. -/
  | directory (way : List Text)
  | file (content : Text)
  /-- A directory around the known one. -/
  | outside

namespace Place

/-- The place of a name in a known directory, where every file has its names from there. -/
def named (files : List (List Text × Text)) (way : List Text) : Except FileFault Place :=
  match files.lookup way.reverse with
  | some t => .ok (.file t)
  | none =>
    if files.any (way.reverse.isPrefixOf ·.1) then .ok (.directory way) else .error .notFound

def step (files : List (List Text × Text)) : Place → Text → Except FileFault Place
  | .file _, _ => .error .notReadable
  | place, ['.'] => .ok place
  | .directory (_ :: way), ['.', '.'] => .ok (.directory way)
  | _, ['.', '.'] => .ok .outside
  | place, name =>
    if maxNameLength < name.byteLength then .error .notReadable
    else
      match place with
      | .directory way => named files (name :: way)
      | _ => .error .notFound

def content? : Place → Except FileFault Text
  | .file t => .ok t
  | _ => .error .notReadable

end Place

/-- The names of a path and its single dots.  A path that ends in a slash goes on from there. -/
def components (path : Text) : List Text :=
  (Text.split '/' path).filter (· ≠ []) ++ if path.getLast? = some '/' then [['.']] else []

/-- A directory that holds these files and no others.  Of equal paths the last counts. -/
def ofList (files : List (Text × Text)) : Files := fun path =>
  let files := files.reverse.map fun f => ((components f.1).filter (· ≠ ['.']), f.2)
  let start := if path.head? = some '/' then Place.outside else .directory []
  if path = [] then .error .notFound
  else if path.contains '\x00' ∨ maxPathLength < path.byteLength then .error .notReadable
  else (components path).foldlM (Place.step files) start >>= Place.content?

end Files

end PathRouting
