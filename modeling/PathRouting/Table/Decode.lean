import PathRouting.Document.Data
import PathRouting.Table.Basic

/-! # Tables from data

A record is read from a map, where unknown keys are passed over and known ones come once, or, in
some notations, from a list of its fields in order.  Of equal keys in a dictionary the last one
counts.  What differs between notations is gathered in one record of conventions.
-/

namespace PathRouting

inductive ListedRecord where
  /-- Only as maps. -/
  | never
  /-- Also as lists with no more items than fields. -/
  | exact
  /-- Also as lists, of which items past the last field are passed over. -/
  | lenient
  deriving DecidableEq

structure Conventions where
  /-- The data that a reference leads to; other data lead to themselves. -/
  follow : Data → Data
  /-- The text of a scalar where a text is wanted. -/
  text? : Data → Option Text
  /-- The text of a scalar where there may be none, and whether there is one. -/
  optional? : Data → Option (Option Text)
  /-- Whether a value stands for an empty list, map or record. -/
  isEmpty : Data → Bool
  listedRecord : ListedRecord

namespace Conventions

variable (conv : Conventions)

def readText? (d : Data) : Option Text := conv.text? (conv.follow d)

def readOptional? (d : Data) : Option (Option Text) := conv.optional? (conv.follow d)

/-- The entries of a map whose keys are all texts. -/
def map? (d : Data) : Option (List (Text × Data)) :=
  match conv.follow d with
  | .map es => es.mapM fun e => (conv.readText? e.1).map (·, e.2)
  | d => if conv.isEmpty d then some [] else none

def list? (d : Data) : Option (List Data) :=
  match conv.follow d with
  | .list ds => some ds
  | d => if conv.isEmpty d then some [] else none

/-- The values of the fields of a record, in the order of their names.  Numbers under unknown keys
have to be in range. -/
def record? (names : List Text) (d : Data) : Option (List (Option Data)) :=
  match conv.follow d, conv.listedRecord with
  | .list _, .never => none
  | .list ds, kind =>
    if kind = .exact ∧ names.length < ds.length then none
    else some (names.mapIdx fun i _ => ds[i]?)
  | d, _ => do
    let es ← conv.map? d
    if names.any fun name => 1 < (es.filter (·.1 == name)).length then none
    if es.any fun e => !names.contains e.1 && e.2.overflows then none
    pure (names.map (es.lookup ·))

def dictionary? {α : Type} (read : Data → Option α) (d : Data) : Option (Dictionary α) := do
  let es ← conv.map? d
  let es ← es.mapM fun e => (read e.2).map (e.1, ·)
  pure (Dictionary.ofList es)

def items? {α : Type} (read : Data → Option α) (d : Data) : Option (List α) := do
  (← conv.list? d).mapM read

end Conventions

def fieldOr {α : Type} (default : α) (read : Data → Option α) (field : Option Data) : Option α :=
  field.elim (some default) read

namespace ControllerSpec

def read? (conv : Conventions) (d : Data) : Option ControllerSpec := do
  match ← conv.record? ["actions".toList] d with
  | [actions] =>
    let actions ← fieldOr ∅ (conv.dictionary? (conv.items? conv.readText?)) actions
    pure ⟨actions⟩
  | _ => none

end ControllerSpec

namespace RouteSpec

def read? (conv : Conventions) (d : Data) : Option RouteSpec := do
  match ← conv.record? ["pattern".toList, "controller".toList] d with
  | [some pattern, some controller] =>
    pure ⟨← conv.readText? pattern, ← conv.readText? controller⟩
  | _ => none

end RouteSpec

namespace Table

def fieldNames : List Text :=
  ["selector".toList, "validators".toList, "controllers".toList, "routes".toList]

def read? (conv : Conventions) (d : Data) : Option Table := do
  match ← conv.record? fieldNames d with
  | [selector, validators, controllers, routes] =>
    let selector ← fieldOr none conv.readOptional? selector
    let validators ← fieldOr ∅ (conv.dictionary? conv.readText?) validators
    let controllers ← fieldOr ∅ (conv.dictionary? (ControllerSpec.read? conv)) controllers
    let routes ← fieldOr [] (conv.items? (RouteSpec.read? conv)) routes
    pure ⟨selector, validators, controllers, routes⟩
  | _ => none

end Table

end PathRouting
