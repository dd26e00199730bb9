import PathRouting.Document.Data

/-! # TOML tables

A table grows by entries, whose keys may lead through further tables, and by headers.  A table is
opened by one header at most, and keys with dots add only to tables that none has opened.
-/

namespace PathRouting

namespace Toml

inductive Origin where
  /-- On the way to a header. -/
  | implied
  /-- On the way of a key with dots. -/
  | dotted
  /-- By a header of its own. -/
  | declared
  deriving DecidableEq

inductive Item where
  | value (d : Data)
  | table (origin : Origin) (entries : List (Text × Item))
  /-- The tables of a list, the last one first. -/
  | tables (latest : List (List (Text × Item)))

abbrev Entries := List (Text × Item)

namespace Entries

def update (k : Text) (f : Option Item → Option Item) (es : Entries) : Option Entries :=
  (f (es.lookup k)).map fun i => (k, i) :: es.filter (·.1 != k)

/-- Change the table at the end of a way of keys, through the last tables of lists. -/
def within (f : Entries → Option Entries) : List Text → Entries → Option Entries
  | [], es => f es
  | k :: ks, es => es.update k fun
    | none => (within f ks []).map (.table .implied)
    | some (.table origin es) => (within f ks es).map (.table origin)
    | some (.tables (t :: ts)) => (within f ks t).map fun t => .tables (t :: ts)
    | some _ => none

/-- Add a value under a key with dots between its parts.  `isOpen` says whether a value may be
added here. -/
def add (isOpen : Bool) (d : Data) : List Text → Entries → Option Entries
  | [], _ => none
  | [k], es => if isOpen && (es.lookup k).isNone then some ((k, .value d) :: es) else none
  | k :: ks, es => es.update k fun
    | none => (add true d ks []).map (.table .dotted)
    | some (.table .declared _) => none
    | some (.table origin es) => (add true d ks es).map (.table origin)
    | some (.tables (t :: ts)) => (add false d ks t).map fun t => .tables (t :: ts)
    | some _ => none

def declare (k : Text) (es : Entries) : Option Entries :=
  es.update k fun
    | none => some (.table .declared [])
    | some (.table .implied es) => some (.table .declared es)
    | some _ => none

def declareNext (k : Text) (es : Entries) : Option Entries :=
  es.update k fun
    | none => some (.tables [[]])
    | some (.tables ts) => some (.tables ([] :: ts))
    | some _ => none

end Entries

mutual

def Item.toData : Item → Data
  | .value d => d
  | .table _ es => .map (entriesToData es)
  | .tables ts => .list (tablesToData ts).reverse
termination_by structural i => i

def entriesToData : List (Text × Item) → List (Data × Data)
  | [] => []
  | (k, i) :: es => (.text k, i.toData) :: entriesToData es
termination_by structural es => es

def tablesToData : List (List (Text × Item)) → List Data
  | [] => []
  | t :: ts => .map (entriesToData t) :: tablesToData ts
termination_by structural ts => ts

end

end Toml

end PathRouting
