import PathRouting.Pattern.Rejection

/-! # Nodes

A node stands for a segment below its parent, and the root for the empty path.  It knows its depth
and the height of the tree below it, counting itself, where a rest marker makes the height
unbounded.  Patterns that begin alike share the nodes of their common segments.
-/

namespace PathRouting

structure Route (ε : Type) where
  pattern : Text
  endpoint : ε
  deriving DecidableEq

inductive Node (ε : Type) where
  | mk (label : Option Segment) (depth height : Nat) (route : Option (Route ε))
      (children : List (Node ε))

namespace Node

variable {ε : Type}

/-- The height of a tree with a rest marker, and the cap of all heights and depths. -/
def unbounded : Nat := 65535

/-- The height of a tree whose subtrees are at most so high. -/
def raise (height : Nat) : Nat := min (height + 1) unbounded

def label : Node ε → Option Segment
  | mk label _ _ _ _ => label

def depth : Node ε → Nat
  | mk _ depth _ _ _ => depth

def height : Node ε → Nat
  | mk _ _ height _ _ => height

def route : Node ε → Option (Route ε)
  | mk _ _ _ route _ => route

def children : Node ε → List (Node ε)
  | mk _ _ _ _ children => children

def root : Node ε := .mk none 0 1 none []

/-- The text of the node's segment; empty at the root. -/
def raw (n : Node ε) : Text := n.label.elim [] Segment.raw

def isRest (n : Node ε) : Bool := n.label.any Segment.isRest

def pieces (n : Node ε) : List Piece := n.label.elim [] Segment.pieces

def slots (n : Node ε) : List (Text × Rule) := n.label.elim [] Segment.slots

/-- The slot and default value of a node that can be left out at the end of a path. -/
def optional? (n : Node ε) : Option (Text × Text) := n.label.bind Segment.optional?

def withRoute (r : Route ε) : Node ε → Node ε
  | mk label depth height _ children => mk label depth height (some r) children

@[simp] theorem label_withRoute (r : Route ε) (n : Node ε) : (n.withRoute r).label = n.label := by
  cases n; rfl

@[simp] theorem depth_withRoute (r : Route ε) (n : Node ε) : (n.withRoute r).depth = n.depth := by
  cases n; rfl

@[simp] theorem height_withRoute (r : Route ε) (n : Node ε) :
    (n.withRoute r).height = n.height := by
  cases n; rfl

@[simp] theorem route_withRoute (r : Route ε) (n : Node ε) : (n.withRoute r).route = some r := by
  cases n; rfl

@[simp] theorem children_withRoute (r : Route ε) (n : Node ε) :
    (n.withRoute r).children = n.children := by
  cases n; rfl

/-- Whether a path of so many segments can end at a node of this depth and height or below. -/
def reaches (depth height length : Nat) : Bool :=
  height == unbounded || depth + height > length

def chain (r : Route ε) (depth : Nat) (s : Segment) : List Segment → Node ε
  | [] => mk (some s) (min depth unbounded) (if s.isRest then unbounded else 1) (some r) []
  | s' :: ss =>
    let below := chain r (depth + 1) s' ss
    mk (some s) (min depth unbounded) (raise below.height) none [below]

def child? (n : Node ε) (raw : Text) : Option (Node ε) := n.children.find? (·.raw == raw)

/-- What keeps a pattern with segments `s :: ss` from being added below a node. -/
def fault? (n : Node ε) (s : Segment) (ss : List Segment) : Option Fault :=
  match n.child? s.raw with
  | some child =>
    match ss with
    | s' :: ss => if child.isRest then some .restNotLast else fault? child s' ss
    | [] => if child.route.isSome then some .taken else none
  | none =>
    let sibling := if s.isRest then n.children.head? else n.children.find? isRest
    sibling.map fun sibling => .restConflict sibling.raw
termination_by structural ss

def changeFirst (raw : Text) (change : Node ε → Node ε) : List (Node ε) → List (Node ε)
  | [] => []
  | c :: cs => if c.raw = raw then change c :: cs else c :: changeFirst raw change cs

def heightOf (raw : Text) (nodes : List (Node ε)) : Nat :=
  (nodes.find? (·.raw == raw)).elim 0 height

/-- Put the changed children below a node, which grows with the child of a raw text. -/
def withChild (raw : Text) (children : List (Node ε)) : Node ε → Node ε
  | mk label depth height route _ =>
    mk label depth (max height (raise (heightOf raw children))) route children

@[simp] theorem label_withChild (raw : Text) (cs : List (Node ε)) (n : Node ε) :
    (n.withChild raw cs).label = n.label := by
  cases n; rfl

@[simp] theorem depth_withChild (raw : Text) (cs : List (Node ε)) (n : Node ε) :
    (n.withChild raw cs).depth = n.depth := by
  cases n; rfl

@[simp] theorem height_withChild (raw : Text) (cs : List (Node ε)) (n : Node ε) :
    (n.withChild raw cs).height = max n.height (raise (heightOf raw cs)) := by
  cases n; rfl

@[simp] theorem route_withChild (raw : Text) (cs : List (Node ε)) (n : Node ε) :
    (n.withChild raw cs).route = n.route := by
  cases n; rfl

@[simp] theorem children_withChild (raw : Text) (cs : List (Node ε)) (n : Node ε) :
    (n.withChild raw cs).children = cs := by
  cases n; rfl

/-- Add the route of a pattern with segments `s :: ss` below a node, the first of them at `depth`.
The children that are there keep their places, and a new one comes last. -/
def graft (r : Route ε) (depth : Nat) (s : Segment) (ss : List Segment) (n : Node ε) : Node ε :=
  let change := match ss with
    | [] => withRoute r
    | s' :: ss => graft r (depth + 1) s' ss
  let children :=
    if (n.child? s.raw).isSome then changeFirst s.raw change n.children
    else n.children ++ [chain r depth s ss]
  n.withChild s.raw children
termination_by structural ss

mutual

def validators : Node ε → List Text
  | mk label _ _ _ children =>
    (label.elim [] Segment.slots).map (·.2.validator) ++ validatorsOf children

def validatorsOf : List (Node ε) → List Text
  | [] => []
  | n :: ns => validators n ++ validatorsOf ns

end

end Node

end PathRouting
