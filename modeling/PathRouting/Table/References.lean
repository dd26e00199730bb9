import PathRouting.Table.Decode

/-! # References in tables

How often a reference is followed when a table is read.  One that is followed from several places
counts there each time, with those behind it, and what is passed over does not count.
-/

namespace PathRouting

namespace Data

def references : Data → Nat
  | .reference _ => 1
  | _ => 0

end Data

namespace Conventions

variable (conv : Conventions)

def itemReferences (item : Data → Nat) (d : Data) : Nat :=
  d.references +
    match conv.follow d with
    | .list ds => (ds.map item).foldr (· + ·) 0
    | _ => 0

/-- The references of a map; `value` counts those of a value by the key it has. -/
def entryReferences (value : Option Text → Data → Nat) (d : Data) : Nat :=
  d.references +
    match conv.follow d with
    | .map es => (es.map fun e => e.1.references + value (conv.readText? e.1) e.2).foldr (· + ·) 0
    | _ => 0

def fieldReferences (fields : List (Text × (Data → Nat))) : Data → Nat :=
  conv.entryReferences fun name value =>
    match name.bind (fields.lookup ·) with
    | some count => count value
    | none => 0

end Conventions

namespace Table

def references (conv : Conventions) : Data → Nat :=
  let text := Data.references
  let actions := conv.entryReferences fun _ => conv.itemReferences text
  let controller := conv.fieldReferences [("actions".toList, actions)]
  let route := conv.fieldReferences [("pattern".toList, text), ("controller".toList, text)]
  conv.fieldReferences
    [("selector".toList, text),
      ("validators".toList, conv.entryReferences fun _ => text),
      ("controllers".toList, conv.entryReferences fun _ => controller),
      ("routes".toList, conv.itemReferences route)]

end Table

end PathRouting
