import PathRouting.Document.Json
import PathRouting.Table.Basic

/-! # Tables as JSON

A table is written as a map of its fields; the selector is left out when there is none.
-/

namespace PathRouting

namespace Data

def ofDictionary {α : Type} (write : α → Data) (d : Dictionary α) : Data :=
  .map (d.entries.map fun e => (.text e.1, write e.2))

end Data

namespace ControllerSpec

def toData (c : ControllerSpec) : Data :=
  .map [(.text "actions".toList, .ofDictionary (fun ms => .list (ms.map .text)) c.actions)]

end ControllerSpec

namespace RouteSpec

def toData (r : RouteSpec) : Data :=
  .map [(.text "pattern".toList, .text r.pattern), (.text "controller".toList, .text r.controller)]

end RouteSpec

namespace Table

def toData (t : Table) : Data :=
  .map ((t.selector.map fun s => (.text "selector".toList, .text s)).toList ++
    [(.text "validators".toList, .ofDictionary .text t.validators),
      (.text "controllers".toList, .ofDictionary ControllerSpec.toData t.controllers),
      (.text "routes".toList, .list (t.routes.map RouteSpec.toData))])

def toJson (t : Table) : Text := Json.render t.toData

end Table

end PathRouting
