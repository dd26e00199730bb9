import PathRouting.Tree.Basic

/-! # Lookup

A request descends the tree one segment a level, the children of a node in the order they came.
Where the path ends, a node answers by its own route, by a rest marker that takes nothing, or by
the defaults of a line of optional children.  Bindings are put on a trail that is cut back whenever
a branch fails.
-/

namespace PathRouting

abbrev Binding := Text × Text

structure Trail where
  bindings : List Binding
  events : List Event

namespace Trail

def start : Trail := ⟨[], []⟩

def bind (t : Trail) (b : Binding) : Trail := { t with bindings := t.bindings ++ [b] }

def report (t : Trail) (e : Event) : Trail := { t with events := t.events ++ [e] }

def cutBack (t : Trail) (mark : Nat) : Trail := { t with bindings := t.bindings.take mark }

end Trail

inductive Fit where
  | fits
  | differs
  | unknown (validator : Text)
  deriving DecidableEq

namespace Fit

/-- Take the pieces off a text from the left, each slot as many bytes as its validator returns, and
at least one character.  The values are bound on the way. -/
def pieces (registry : Registry) : List Piece → Text → List Binding → Fit × List Binding
  | [], t, bs => (if t = [] then .fits else .differs, bs)
  | .literal l :: ps, t, bs =>
    match Text.dropPrefix? t l with
    | some t => pieces registry ps t bs
    | none => (.differs, bs)
  | .slot name rule :: ps, t, bs =>
    match registry.get? rule.validator with
    | none => (.unknown rule.validator, bs)
    | some validator =>
      match Text.cutBytes? t (Text.byteLength (validator rule t)) with
      | some (value, t) =>
        if value = [] then (.differs, bs) else pieces registry ps t (bs ++ [(name, value)])
      | none => (.differs, bs)

def segment (registry : Registry) : Segment → Text → List Binding → Fit × List Binding
  | .plain text, t, bs => (if text = t then .fits else .differs, bs)
  | .slotted _ ps, t, bs => pieces registry ps t bs
  | .rest, _, bs => (.differs, bs)

end Fit

/-- What a lookup keeps in sight: the method, the number of segments, whether the path ends with a
slash, the validators, and the name of the selector. -/
structure Sight where
  method : Method
  length : Nat
  slash : Bool
  registry : Registry
  selector : Text

/-- The route that answers, with the text that a rest marker takes. -/
structure Hit (ε : Type) where
  route : Route ε
  rest : Option Text
  deriving DecidableEq

namespace Node

variable {ε : Type}

/-- A rest marker takes the segments left, and the slash at the end if there are any. -/
def takeRest (q : Sight) (route : Option (Route ε)) (left : List Text) : Option (Hit ε) :=
  route.map fun r =>
    let text := Text.join '/' left
    ⟨r, some (if q.slash && text != [] then text ++ ['/'] else text)⟩

variable [Endpoint ε]

/-- Whether the endpoint exposes all values that the selector got since the mark. -/
def exposes (q : Sight) (r : Route ε) (mark : Nat) (bs : List Binding) : Bool :=
  (bs.drop mark).all fun b => b.1 != q.selector || Endpoint.supports r.endpoint q.method b.2

/-- Follow only children that are optional and bind their defaults, to the first one with a
route. -/
def fallBack (q : Sight) (mark : Nat) : Node ε → Trail → Option (Hit ε) × Trail
  | mk _ _ _ _ [child], trail =>
    match child.optional? with
    | none => (none, trail.cutBack mark)
    | some b =>
      let trail := trail.bind b
      match child.route with
      | none => fallBack q mark child trail
      | some r =>
        if exposes q r mark trail.bindings then (some ⟨r, none⟩, trail)
        else
          let event := .selectorNotExposed (Endpoint.name r.endpoint) r.pattern q.method.token
          (none, (trail.report event).cutBack mark)
  | _, trail => (none, trail.cutBack mark)

def settle (q : Sight) (n : Node ε) (trail : Trail) : Option (Hit ε) × Trail :=
  match n.route with
  | some r => (some ⟨r, none⟩, trail)
  | none =>
    match n.children.find? isRest with
    | some child => (takeRest q child.route [], trail)
    | none => fallBack q trail.bindings.length n trail

def orCutBack (mark : Nat) : Option (Hit ε) × Trail → Option (Hit ε) × Trail
  | (some hit, trail) => (some hit, trail)
  | (none, trail) => (none, trail.cutBack mark)

mutual

def descend (q : Sight) : Node ε → List Text → Trail → Option (Hit ε) × Trail
  | mk label depth height route children, left, trail =>
    if !reaches depth height q.length then (none, trail)
    else match label, left with
      | some .rest, left => (takeRest q route left, trail)
      | some s, t :: left =>
        let mark := trail.bindings.length
        match Fit.segment q.registry s t trail.bindings with
        | (.fits, bs) =>
          let trail := { trail with bindings := bs }
          orCutBack mark <|
            if left.isEmpty then settle q (mk label depth height route children) trail
            else firstHit q children left trail
        | (.differs, bs) => (none, { trail with bindings := bs }.cutBack mark)
        | (.unknown v, bs) =>
          let trail := { trail with bindings := bs }.report (.unknownValidator v s.raw)
          (none, trail.cutBack mark)
      | _, _ => (none, trail)
termination_by structural n => n

def firstHit (q : Sight) : List (Node ε) → List Text → Trail → Option (Hit ε) × Trail
  | [], _, trail => (none, trail)
  | n :: ns, left, trail =>
    match descend q n left trail with
    | (some hit, trail) => (some hit, trail)
    | (none, trail) => firstHit q ns left trail
termination_by structural ns => ns

end

end Node

structure Match (ε : Type) where
  route : Route ε
  params : Dictionary Text
  selector : Option Text
  deriving DecidableEq

namespace Match

variable {ε : Type}

def rest (m : Match ε) : Option Text := m.params.get? Segment.restName

/-- Whether the endpoint exposes the selector's value; a match without a selector always goes. -/
def isDispatchable [Endpoint ε] (m : Match ε) (method : Method) : Bool :=
  m.selector.all (Endpoint.supports m.route.endpoint method)

def ofHit (selector : Text) (hit : Hit ε) (bs : List Binding) : Match ε :=
  let params := Dictionary.ofList bs
  let params := hit.rest.elim params (params.insert Segment.restName)
  ⟨hit.route, params, params.get? selector⟩

end Match

inductive Outcome (ε : Type) where
  | matched (m : Match ε)
  | notFound
  | malformed (path : Text)
  deriving DecidableEq

namespace Outcome

def malformedMessage (path : Text) : Text :=
  "request path '".toList ++ path ++ "' contains a '..' segment".toList

end Outcome

namespace Tree

variable {ε : Type} [Endpoint ε]

def lookupLogged (t : Tree ε) (method : Method) (path : Text) : Logged (Outcome ε) :=
  match Path.segments path with
  | none => ⟨.malformed path, []⟩
  | some left =>
    let q : Sight := ⟨method, left.length, path.getLast? == some '/', t.registry, t.selector⟩
    let (hit, trail) := match left with
      | [] => t.root.settle q .start
      | left => Node.firstHit q t.root.children left .start
    ⟨hit.elim .notFound fun hit => .matched (.ofHit t.selector hit trail.bindings), trail.events⟩

def lookup (t : Tree ε) (method : Method) (path : Text) : Outcome ε :=
  (t.lookupLogged method path).value

end Tree

end PathRouting
