import PathRouting.Text.Basic

/-! # Data

What a document says, in whatever notation: nothing, texts, other scalars, lists and maps.  A map
keeps its entries as they come, repeated keys too.
-/

namespace PathRouting

/-- What a notation says of the kind of a scalar without quotes. -/
inductive Tag where
  /-- No more than its text. -/
  | unsaid
  /-- That it is nothing. -/
  | null
  | other
  deriving DecidableEq

inductive Data where
  | null
  | text (t : Text)
  /-- A scalar without quotes, in a notation where it may be a text or something else. -/
  | plain (tag : Tag) (t : Text)
  /-- A scalar that is no text, by its spelling. -/
  | other (spelling : Text)
  /-- A number that is out of range, which shows when it is read. -/
  | overflow
  | list (items : List Data)
  /-- A key is a text, or else there is no reading the map. -/
  | map (entries : List (Data × Data))
  /-- Data that stand at another place, by the number of that place. -/
  | reference (target : Nat)

namespace Data

mutual

/-- Whether there is a number out of range, not looking behind references. -/
def overflows : Data → Bool
  | .overflow => true
  | .list ds => anyOverflows ds
  | .map es => anyEntryOverflows es
  | _ => false
termination_by structural d => d

def anyOverflows : List Data → Bool
  | [] => false
  | d :: ds => overflows d || anyOverflows ds
termination_by structural ds => ds

def anyEntryOverflows : List (Data × Data) → Bool
  | [] => false
  | (_, d) :: es => overflows d || anyEntryOverflows es
termination_by structural es => es

end

mutual

/-- The number of scalars, of references, and of starts and ends of lists and maps. -/
def size : Data → Nat
  | .list ds => sizeOfItems ds + 2
  | .map es => sizeOfEntries es + 2
  | _ => 1
termination_by structural d => d

def sizeOfItems : List Data → Nat
  | [] => 0
  | d :: ds => size d + sizeOfItems ds
termination_by structural ds => ds

def sizeOfEntries : List (Data × Data) → Nat
  | [] => 0
  | (k, d) :: es => size k + size d + sizeOfEntries es
termination_by structural es => es

end

end Data

end PathRouting
