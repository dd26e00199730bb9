import PathRouting.Path
import PathRouting.Pattern.Rejection
import PathRouting.Text.Digit

/-! # Reading patterns

A pattern is split like a path.  A segment with `<` or `>` is cut into marks, the texts outside and
the bodies inside the angle brackets; a body reads `name[=default][:validator[(setting)]]`.
-/

namespace PathRouting

namespace Pattern

/-- One segment less than the depth that stands for an unbounded height. -/
def mostSegments : Nat := 65534

def mostNames : Nat := 255

/-! ## Placeholder bodies -/

def isLetter (c : Char) : Bool := c.isAlpha

def isName : Text → Bool
  | [] => false
  | c :: t => isLetter c && t.all Text.isAsciiWord

def length? (digits : Text) : Except Fault Nat :=
  if digits.all Char.isDigit && digits != [] && Text.decimalValue digits ≤ Rule.largestLength then
    .ok (Text.decimalValue digits)
  else .error (.badLength digits)

/-- The two sides of a range of lengths, in digits of any script. -/
def range? (setting : Text) : Option (Text × Text) :=
  match Text.cut? '~' setting with
  | some (a, b) =>
    if a != [] && b != [] && a.all Text.isDecimal && b.all Text.isDecimal then some (a, b)
    else none
  | none => none

/-- A setting is a length, a range of lengths, or else the choices. -/
def withSetting (rule : Rule) (setting : Text) : Except Fault Rule :=
  if setting != [] && setting.all Char.isDigit then do
    let n ← length? setting
    pure (rule.withLengths n n)
  else match range? setting with
    | some (a, b) => do
      let a ← length? a
      let b ← length? b
      pure (rule.withLengths a b)
    | none => pure (rule.withChoices setting)

/-- The text between an opening parenthesis at the start and a closing one at the end, in one
line. -/
def setting? : Text → Option Text
  | '(' :: t =>
    if t.getLast? = some ')' && !t.dropLast.contains '\n' then some t.dropLast else none
  | _ => none

/-- An identifier, alone or with a setting in parentheses. -/
def validator (spec : Text) : Except Fault Rule :=
  let name := spec.takeWhile Text.isAsciiWord
  let after := spec.dropWhile Text.isAsciiWord
  if name.head?.any (fun c => isLetter c || c == '_') then
    if after = [] then .ok (Rule.of name)
    else match setting? after with
      | some setting => withSetting (Rule.of name) setting
      | none => .error (.badValidator spec)
  else .error (.badValidator spec)

def usualValidator (name : Text) : Text :=
  if name = "action".toList then "action".toList else "any".toList

def headAndSpec (body : Text) : Text × Option Text :=
  match Text.cut? ':' body with
  | some (head, spec) => (head, some spec)
  | none => (body, none)

/-- The name and the default in the head of a placeholder.  With a default any name but the empty
one will do. -/
def nameAndDefault (head : Text) : Except Fault (Text × Option Text) :=
  match Text.cut? '=' head with
  | some ([], _) => .error (.badName [])
  | some (name, value) => .ok (name, some value)
  | none => if isName head then .ok (head, none) else .error (.badName head)

def placeholder (body : Text) : Except Fault (Text × Rule) := do
  let (head, spec) := headAndSpec body
  let (name, default) ← nameAndDefault head
  let rule ← match spec with
    | some spec => validator spec
    | none => pure (Rule.of (usualValidator name))
  pure (name, { rule with default })

/-! ## Segments -/

/-- A part of a segment as it is written: text outside angle brackets, or a body inside. -/
inductive Mark where
  | text (text : Text)
  | body (body : Text)
  deriving DecidableEq

namespace Mark

def raw : Mark → Text
  | .text t => t
  | .body b => '<' :: b ++ ['>']

end Mark

def isBracket (c : Char) : Bool := c == '<' || c == '>'

def withChar (c : Char) : List Mark → List Mark
  | .text t :: ms => .text (c :: t) :: ms
  | ms => .text [c] :: ms

def withBodyChar (c : Char) : List Mark → List Mark
  | .body b :: ms => .body (c :: b) :: ms
  | ms => ms

mutual

/-- The marks of a segment from left to right, up to the first bracket that does not pair. -/
def marks : Text → List Mark × Option Fault
  | [] => ([], none)
  | c :: t =>
    if c = '<' then bodyMarks t
    else if c = '>' then ([], some .unbalanced)
    else match marks t with
      | (ms, fault) => (withChar c ms, fault)

def bodyMarks : Text → List Mark × Option Fault
  | [] => ([], some .unbalanced)
  | c :: t =>
    if c = '<' then ([], some .nested)
    else if c = '>' then match marks t with
      | (ms, fault) => (.body [] :: ms, fault)
    else match bodyMarks t with
      | (ms, fault) => (withBodyChar c ms, fault)

end

/-- Read marks as pieces, given the names used before; the names used after come with them. -/
def pieces : List Text → List Mark → Except Fault (List Text × List Piece)
  | names, [] => .ok (names, [])
  | names, .text text :: ms => do
    let (names, ps) ← pieces names ms
    pure (names, .literal text :: ps)
  | names, .body body :: ms => do
    let (name, rule) ← placeholder body
    if names.contains name then throw (.repeatedName name)
    if names.length ≥ mostNames then throw .tooManyNames
    let (names, ps) ← pieces (name :: names) ms
    pure (names, .slot name rule :: ps)

/-- A segment with placeholders.  What its marks say comes before the bracket that does not
pair. -/
def slotted (names : List Text) (raw : Text) : Except Fault (List Text × Segment) := do
  let (ms, fault) := marks raw
  let (names, ps) ← pieces names ms
  match fault with
  | some fault => throw fault
  | none => pure (names, .slotted raw ps)

def segment (names : List Text) (isLast : Bool) (raw : Text) :
    Except Fault (List Text × Segment) :=
  if raw = Segment.restText then
    if !isLast then .error .restNotLast
    else if names.contains Segment.restName then .error (.repeatedName Segment.restName)
    else .ok (Segment.restName :: names, .rest)
  else if raw.contains '*' then .error .strayStar
  else if raw.any isBracket then slotted names raw
  else .ok (names, .plain raw)

def segmentsFrom (names : List Text) (done : List Segment) :
    List Text → Except Fault (List Segment)
  | [] => .ok done.reverse
  | raw :: raws =>
    match segment names raws.isEmpty raw with
    | .ok (names, s) => segmentsFrom names (s :: done) raws
    | .error fault => .error fault

def read (pattern : Text) : Except Fault (List Segment) :=
  match Path.segments pattern with
  | none => .error .parentSegment
  | some raws =>
    if raws.length > mostSegments then .error .tooDeep
    else segmentsFrom [] [] raws

/-- The segments of a pattern; none for the root. -/
def parse (pattern : Text) : Except Rejection (List Segment) :=
  (read pattern).mapError (⟨pattern, ·⟩)

end Pattern

end PathRouting
