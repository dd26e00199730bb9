import PathRouting.Document.Json
import PathRouting.Logging.Settings

/-! # Lines of the log

An event below the level of the log is not shown.  The others take a line each, in JSON or with
the fields after the message.
-/

namespace PathRouting

namespace Level

def rank : Level → Nat
  | .trace => 0
  | .debug => 1
  | .info => 2
  | .warn => 3
  | .error => 4

end Level

namespace Event

def toData (e : Event) : Data :=
  .map [(.text "level".toList, .text e.level.word.toList),
    (.text "message".toList, .text e.message.toList),
    (.text "fields".toList, .map (e.fields.map fun f => (.text f.1.toList, .text f.2)))]

def plainLine (e : Event) : Text :=
  e.level.word.toList ++ ' ' :: e.message.toList ++
    e.fields.flatMap fun f => ' ' :: f.1.toList ++ '=' :: f.2

end Event

namespace LogSettings

def line? (s : LogSettings) (e : Event) : Option Text :=
  if e.level.rank < s.level.rank then none
  else match s.format with
    | .json => some (Json.render e.toData)
    | .pretty => some e.plainLine

end LogSettings

end PathRouting
