import PathRouting.Document.Yaml.Place

/-! # Anchors, tags and directives

An anchor names a node, an alias stands for the node of a name, and a tag says of what kind a node
is, by a handle and a suffix.  Directives before a document declare handles and the version.
-/

namespace PathRouting

namespace Yaml

def anchorName? (p : Place) : Option (Text × Place) :=
  let (name, p) := p.span isNameChar
  let ends := isBlankNext p.rest || p.rest.head?.any ("?:,]\x7d%@\x60".toList.contains ·)
  if name != [] && ends then some (name, p) else none

/-! ## Tags -/

/-- Characters of a tag; commas and brackets are some only between `<` and `>`. -/
def isTagChar (isVerbatim : Bool) (c : Char) : Bool :=
  isNameChar c || ";/?:@&=+$.%!~*'()".toList.contains c ||
    (isVerbatim && ",[]".toList.contains c)

def byte? : Text → Option (Nat × Text)
  | '%' :: a :: b :: t => (Text.hexValue? [a, b]).map (·, t)
  | _ => none

def continued? (value : Nat) : Nat → Text → Option (Nat × Text)
  | 0, t => some (value, t)
  | n + 1, t => do
    let (b, t) ← byte? t
    if b / 64 = 2 then continued? (64 * value + b % 64) n t else none

def escapedByte? (t : Text) : Option (Char × Text) := do
  let (b, t) ← byte? t
  let (value, t) ←
    if b < 0x80 then some (b, t)
    else if b / 32 = 6 then continued? (b % 32) 1 t
    else if b / 16 = 14 then continued? (b % 16) 2 t
    else if b / 8 = 30 then continued? (b % 8) 3 t
    else none
  pure (← Text.char? value, t)

def unescaped? : Nat → Text → Option Text
  | 0, _ => none
  | _ + 1, [] => some []
  | fuel + 1, c :: t =>
    if c = '%' then do
      let (c, t) ← escapedByte? (c :: t)
      (unescaped? fuel t).map (c :: ·)
    else (unescaped? fuel t).map (c :: ·)

def tagText? (isVerbatim : Bool) (p : Place) : Option (Text × Place) :=
  let (t, p) := p.span (isTagChar isVerbatim)
  (unescaped? (t.length + 1) t).map (·, p)

/-- A handle: a name between exclamation marks, or else what of it is here. -/
def handle (p : Place) : Text × Place :=
  let (name, q) := p.next.span isNameChar
  if q.rest.head? = some '!' then ('!' :: name ++ ['!'], q.next) else ('!' :: name, q)

/-- A tag as it is written.  The handle is empty where the suffix is all. -/
structure TagName where
  handle : Text
  suffix : Text
  deriving DecidableEq

def tagName? (inFlow : Bool) (p : Place) : Option (TagName × Place) := do
  let (tag, q) ←
    if p.rest.tail.head? = some '<' then do
      let (t, q) ← tagText? true (p.skip 2)
      if t = [] ∨ q.rest.head? ≠ some '>' then none else pure (⟨[], t⟩, q.next)
    else
      let (h, q) := handle p
      if 1 < h.length ∧ h.getLast? = some '!' then do
        let (t, q) ← tagText? false q
        if t = [] then none else pure (⟨h, t⟩, q)
      else do
        let (t, q) ← tagText? false q
        let suffix := h.tail ++ t
        pure (if suffix = [] then ⟨[], ['!']⟩ else ⟨['!'], suffix⟩, q)
  if isBlankNext q.rest || (inFlow && q.rest.head? == some ',') then pure (tag, q) else none

/-! ## Directives -/

inductive Directive where
  | version (major minor : Nat)
  | tag (handle leading : Text)
  deriving DecidableEq

/-- A number of at most nine digits. -/
def versionNumber? (p : Place) : Option (Nat × Place) :=
  let (digits, p) := p.span Char.isDigit
  if digits = [] ∨ 9 < digits.length then none else some (Text.decimalValue digits, p)

def directive? (p : Place) : Option (Directive × Place) := do
  let (name, p) := p.next.span isNameChar
  if !isBlankNext p.rest then none
  let p := p.skipWhile isBlank
  let (d, p) ←
    if name = "YAML".toList then do
      let (major, p) ← versionNumber? p
      if p.rest.head? ≠ some '.' then none
      let (minor, p) ← versionNumber? p.next
      pure (.version major minor, p)
    else if name = "TAG".toList then do
      if p.rest.head? ≠ some '!' then none
      let (h, p) := handle p
      if (h.length ≠ 1 ∧ h.getLast? ≠ some '!') ∨ !p.rest.head?.any isBlank then none
      let (t, p) ← tagText? true (p.skipWhile isBlank)
      if t = [] ∨ !isBlankNext p.rest then none else pure (.tag h t, p)
    else none
  pure (d, ← p.nextLine?)

end Yaml

end PathRouting
