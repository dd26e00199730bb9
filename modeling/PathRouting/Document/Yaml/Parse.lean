import PathRouting.Document.Data
import PathRouting.Document.Yaml.Token

/-! # YAML documents

A text holds one document at most.  Its nodes become data, and an alias a reference to the node of
its name.
-/

namespace PathRouting

namespace Yaml

/-- The root of a document, and the nodes that references lead to. -/
structure Document where
  root : Data
  /-- Each with its number; of equal numbers the last counts. -/
  targets : List (Nat × Data)

/-- What a reference leads to; other data lead to themselves. -/
def Document.follow (doc : Document) : Data → Data
  | .reference n => (doc.targets.reverse.lookup n).getD .null
  | d => d

structure Building where
  tokens : List Token
  /-- The leading parts of tags that handles stand for. -/
  handles : List (Text × Text)
  /-- The names of anchors, each once, with the numbers of their nodes. -/
  names : List (Text × Nat)
  /-- The nodes with anchors in the order in which they start. -/
  targets : Array (Nat × Data)

abbrev Build := StateT Building Option

namespace Build

def peek : Build (Option Token) := do pure (← get).tokens.head?

def skip : Build Unit := modify fun b => { b with tokens := b.tokens.tail }

/-- A node starts that has an anchor.  Its number is that of the names so far, and the place kept
for it is returned. -/
def nameNode (name : Text) : Build Nat := do
  let b ← get
  let number := b.names.length
  let place := b.targets.size
  let names := (name, number) :: b.names.filter (·.1 != name)
  set { b with names, targets := b.targets.push (number, .null) }
  pure place

def completeNode (place : Nat) (d : Data) : Build Unit :=
  modify fun b => { b with targets := b.targets.modify place fun target => (target.1, d) }

def fullTag (t : TagName) : Build Text := do
  if t.handle = [] then pure t.suffix
  else (← get).handles.lookup t.handle |>.map (· ++ t.suffix)

def properties : Build (Option Text × Option Text) := do
  match ← peek with
  | some (.anchor name) =>
    skip
    match ← peek with
    | some (.tag t) =>
      skip
      pure (some name, some (← fullTag t))
    | _ => pure (some name, none)
  | some (.tag t) =>
    skip
    match ← peek with
    | some (.anchor name) =>
      skip
      pure (some name, some (← fullTag t))
    | _ => pure (none, some (← fullTag t))
  | _ => pure (none, none)

def kindOf : Option Text → Tag
  | none => .unsaid
  | some t => if t = "tag:yaml.org,2002:null".toList then .null else .other

def absent : Data := .plain .unsaid []

/-- A node, unless what comes next is one of `ends` or nothing. -/
def nodeUnless (ends : List Token) (node : Build Data) : Build Data := do
  if (← peek).all ends.contains then pure absent else node

mutual

/-- A node.  Block lists and maps are nodes `inBlock`, and a list without a column of its own is one
where it is an entry of a map. -/
def node (inBlock inEntry : Bool) : Nat → Build Data
  | 0 => failure
  | fuel + 1 => do
    match ← peek with
    | some (.alias name) =>
      skip
      match (← get).names.lookup name with
      | some number => pure (.reference number)
      | none => failure
    | _ =>
      let (anchor, tag) ← properties
      match anchor with
      | some name =>
        let place ← nameNode name
        let d ← content inBlock inEntry true tag fuel
        completeNode place d
        pure d
      | none => content inBlock inEntry tag.isSome tag fuel

/-- A node after its anchor and its tag.  It may be left out where it has one of them. -/
def content (inBlock inEntry hasProperty : Bool) (tag : Option Text) : Nat → Build Data
  | 0 => failure
  | fuel + 1 => do
    match ← peek, inBlock, inEntry with
    | some .dash, _, true => entryItems [] fuel
    | some (.plain t), _, _ =>
      skip
      pure (.plain (kindOf tag) t)
    | some (.quoted t), _, _ =>
      skip
      pure (.text t)
    | some .flowList, _, _ =>
      skip
      flowItems true [] fuel
    | some .flowMap, _, _ =>
      skip
      flowEntries true [] fuel
    | some .blockList, true, _ =>
      skip
      blockItems [] fuel
    | some .blockMap, true, _ =>
      skip
      blockEntries [] fuel
    | _, _, _ => if hasProperty then pure (.plain (kindOf tag) []) else failure

def blockItems (done : List Data) : Nat → Build Data
  | 0 => failure
  | fuel + 1 => do
    match ← peek with
    | some .dash =>
      skip
      let d ← nodeUnless [.dash, .blockEnd] (node true false fuel)
      blockItems (d :: done) fuel
    | some .blockEnd =>
      skip
      pure (.list done.reverse)
    | _ => failure

def entryItems (done : List Data) : Nat → Build Data
  | 0 => failure
  | fuel + 1 => do
    match ← peek with
    | some .dash =>
      skip
      let d ← nodeUnless [.dash, .key, .value, .blockEnd] (node true false fuel)
      entryItems (d :: done) fuel
    | _ => pure (.list done.reverse)

def valueUnless (ends : List Token) (inBlock : Bool) : Nat → Build Data
  | 0 => failure
  | fuel + 1 => do
    match ← peek with
    | some .value =>
      skip
      nodeUnless ends (node inBlock inBlock fuel)
    | _ => pure absent

def blockEntries (done : List (Data × Data)) : Nat → Build Data
  | 0 => failure
  | fuel + 1 => do
    let ends : List Token := [.key, .value, .blockEnd]
    match ← peek with
    | some .key =>
      skip
      let k ← nodeUnless ends (node true true fuel)
      let d ← valueUnless ends true fuel
      blockEntries ((k, d) :: done) fuel
    | some .blockEnd =>
      skip
      pure (.map done.reverse)
    | _ => failure

/-- An item of a flow list.  A key makes a map of one entry of it; where the key is left out, what
stands in its place is passed over. -/
def flowItem : Nat → Build Data
  | 0 => failure
  | fuel + 1 => do
    match ← peek with
    | some .key =>
      skip
      let k ←
        if (← peek).any [Token.value, .comma, .flowListEnd].contains then do
          skip
          pure absent
        else node false false fuel
      let d ← valueUnless [.comma, .flowListEnd] false fuel
      pure (.map [(k, d)])
    | _ => node false false fuel

/-- The items of a flow list; a comma comes before each but the first. -/
def flowItems (isFirst : Bool) (done : List Data) : Nat → Build Data
  | 0 => failure
  | fuel + 1 => do
    match ← peek, isFirst with
    | some .flowListEnd, _ =>
      skip
      pure (.list done.reverse)
    | some .comma, false =>
      skip
      if (← peek) = some .flowListEnd then
        skip
        pure (.list done.reverse)
      else
        let d ← flowItem fuel
        flowItems false (d :: done) fuel
    | _, true =>
      let d ← flowItem fuel
      flowItems false (d :: done) fuel
    | _, false => failure

/-- An entry of a flow map.  Without a mark it is a key alone. -/
def flowEntry : Nat → Build (Data × Data)
  | 0 => failure
  | fuel + 1 => do
    match ← peek with
    | some .key =>
      skip
      let k ← nodeUnless [.value, .comma, .flowMapEnd] (node false false fuel)
      let d ← valueUnless [.comma, .flowMapEnd] false fuel
      pure (k, d)
    | _ =>
      let k ← node false false fuel
      pure (k, absent)

def flowEntries (isFirst : Bool) (done : List (Data × Data)) : Nat → Build Data
  | 0 => failure
  | fuel + 1 => do
    match ← peek, isFirst with
    | some .flowMapEnd, _ =>
      skip
      pure (.map done.reverse)
    | some .comma, false =>
      skip
      if (← peek) = some .flowMapEnd then
        skip
        pure (.map done.reverse)
      else
        let e ← flowEntry fuel
        flowEntries false (e :: done) fuel
    | _, true =>
      let e ← flowEntry fuel
      flowEntries false (e :: done) fuel
    | _, false => failure

end

/-- The handles that are declared before a document; `hasVersion` says whether a version is. -/
def directives (hasVersion : Bool) (handles : List (Text × Text)) :
    List Token → Option (List (Text × Text) × List Token)
  | .directive (.version major minor) :: ts =>
    if hasVersion || major != 1 || (minor != 1 && minor != 2) then none
    else directives true handles ts
  | .directive (.tag handle leading) :: ts =>
    if handles.any (·.1 == handle) then none
    else directives hasVersion ((handle, leading) :: handles) ts
  | ts => some (handles, ts)

def usualHandles : List (Text × Text) :=
  [(['!'], ['!']), (['!', '!'], "tag:yaml.org,2002:".toList)]

/-- The root of a document, which is absent where the text has no node. -/
def root (fuel : Nat) : Build Data := do
  match ← peek with
  | none => pure absent
  | some (.directive _) => declared
  | some .documentStart => declared
  | _ => node true false fuel
where
  declared : Build Data := do
    let (handles, tokens) ← directives false [] (← get).tokens
    modify fun b => { b with handles := handles ++ usualHandles, tokens }
    if (← peek) ≠ some .documentStart then failure
    skip
    match ← peek with
    | none => pure absent
    | some (.directive _) => pure absent
    | some .documentStart => pure absent
    | some .documentEnd => pure absent
    | _ => node true false fuel

end Build

/-- The document that tokens make up.  Only marks of its end may follow it. -/
def Document.ofTokens? (ts : List Token) : Option Document := do
  let (root, b) ← (Build.root (3 * ts.length + 3)).run ⟨ts, Build.usualHandles, [], #[]⟩
  if b.tokens.all (· == .documentEnd) then pure ⟨root, b.targets.toList⟩ else none

def isAllowed (c : Char) : Bool :=
  let code := c.toNat
  code == 0x9 || code == 0xa || code == 0xd || (0x20 ≤ code && code ≤ 0x7e) || code == 0x85 ||
    (0xa0 ≤ code && code != 0xfffe && code != 0xffff)

/-- The text with a newline for each carriage return, with a newline after it or none, and for each
next-line character. -/
def withNewlines : Text → Text
  | '\r' :: '\n' :: t => '\n' :: withNewlines t
  | '\r' :: t => '\n' :: withNewlines t
  | '\u0085' :: t => '\n' :: withNewlines t
  | c :: t => c :: withNewlines t
  | [] => []

def parse (t : Text) : Option Document :=
  if t.all isAllowed then Token.ofText? (withNewlines t) >>= Document.ofTokens? else none

end Yaml

end PathRouting
