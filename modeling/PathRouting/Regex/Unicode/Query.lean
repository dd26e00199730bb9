import PathRouting.Regex.Unicode.Age
import PathRouting.Regex.Unicode.Break

/-! # Classes by property

The characters that an expression asks for by the name of a category, a script or another property,
or by a property and its value.
-/

namespace PathRouting

namespace Regex

namespace Unicode

/-- What counts in a name: no case, blanks, hyphens or low lines, only ASCII, and no `is` in front.
Of `isc` that would leave the category `c`, so it stays. -/
def normal (name : Text) : Text :=
  let counted (t : Text) :=
    Text.lowerAscii (t.filter fun c => c != ' ' && c != '_' && c != '-' && c.toNat < 0x80)
  match name with
  | i :: s :: rest =>
    if Text.lowerAscii [i, s] = ['i', 's'] then
      if counted rest = ['c'] then ['i', 's', 'c'] else counted rest
    else counted name
  | _ => counted name

def cutUnequal? : Text → Option (Text × Text)
  | '!' :: '=' :: after => some ([], after)
  | c :: t => (cutUnequal? t).map fun (before, after) => (c :: before, after)
  | [] => none

def valued? (property value : Text) : Option CharSet :=
  let value := normal value
  match String.ofList (normal property) with
  | "gc" | "generalcategory" => category? value
  | "sc" | "script" => script? value
  | "scx" | "scriptextensions" => scriptExtension? value
  | "age" => age? value
  | "gcb" | "graphemeclusterbreak" => graphemeBreak? value
  | "sb" | "sentencebreak" => sentenceBreak? value
  | "wb" | "wordbreak" => wordBreak? value
  | _ => none

/-- The set that is asked for.  Between a property and its value `!=` is as good as `=`. -/
def set? (query : Text) : Option CharSet :=
  match cutUnequal? query <|> Text.cut? ':' query <|> Text.cut? '=' query with
  | some (property, value) => valued? property value
  | none =>
    let name := normal query
    property? name <|> category? name <|> script? name

end Unicode

end Regex

end PathRouting
