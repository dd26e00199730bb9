import PathRouting.Document.Json
import PathRouting.Document.Toml.Parse
import PathRouting.Document.Yaml.Parse
import PathRouting.Table.References

/-! # Formats of tables

A table is written in YAML, TOML or JSON; the extension of its file name tells which.
-/

namespace PathRouting

inductive Format where
  | yaml
  | toml
  | json
  deriving DecidableEq

namespace Format

/-- The last component of a path; absent when that leads upwards or nowhere. -/
def fileName? (path : Text) : Option Text :=
  match ((Text.split '/' path).filter fun c => c != [] && c != ['.']).getLast? with
  | some name => if name = "..".toList then none else some name
  | none => none

/-- What follows the last dot of a file name that does not start it. -/
def extension? (path : Text) : Option Text := do
  let name ← fileName? path
  let (reversed, before) ← Text.cut? '.' name.reverse
  if before = [] then none else some reversed.reverse

/-- The format of a file; JSON where the extension says nothing else. -/
def ofPath (path : Text) : Format :=
  match extension? path with
  | none => .json
  | some e =>
    if e = "yaml".toList ∨ e = "yml".toList then .yaml
    else if e = "toml".toList then .toml
    else .json

def quoted? : Data → Option Text
  | .text t => some t
  | _ => none

def scalar? : Data → Option Text
  | .text t => some t
  | .plain _ t => some t
  | _ => none

def nullWords : List Text := ["~".toList, "null".toList, "Null".toList, "NULL".toList]

/-- A plain scalar that is no more than its text is nothing where it is empty or spelled so; one whose
tag says that it is nothing has to be spelled so. -/
def optionalScalar? : Data → Option (Option Text)
  | .text t => some (some t)
  | .plain .unsaid t => some (if t = [] ∨ t ∈ nullWords then none else some t)
  | .plain .null t => if t ∈ nullWords then some none else none
  | .plain .other t => some (some t)
  | _ => none

def isLeftOut : Data → Bool
  | .plain _ [] => true
  | _ => false

def yamlConventions (doc : Yaml.Document) : Conventions where
  follow := doc.follow
  text? := scalar?
  optional? := optionalScalar?
  isEmpty := isLeftOut
  listedRecord := .never

def tomlConventions : Conventions where
  follow := id
  text? := quoted?
  optional? d := (quoted? d).map some
  isEmpty _ := false
  listedRecord := .lenient

def optionalQuoted? : Data → Option (Option Text)
  | .null => some none
  | d => (quoted? d).map some

def jsonConventions : Conventions where
  follow := id
  text? := quoted?
  optional? := optionalQuoted?
  isEmpty _ := false
  listedRecord := .exact

/-- A YAML document may lead to so many references for each of its marks. -/
def maxReferences : Nat := 100

def parse : Format → Text → Option (Data × Conventions)
  | .yaml, t => do
    let doc ← Yaml.parse t
    let conv := yamlConventions doc
    if maxReferences * doc.root.size < Table.references conv doc.root then none
    pure (doc.root, conv)
  | .toml, t => (Toml.parse t).map fun d => (d, tomlConventions)
  | .json, t => (Json.parse t).map fun d => (d, jsonConventions)

end Format

namespace Table

def parse (format : Format) (t : Text) : Option Table :=
  format.parse t >>= fun (d, conv) => read? conv d

end Table

end PathRouting
