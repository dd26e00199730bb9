import PathRouting.Tree.Basic

/-! # Outlines

A tree as indented lines, one for each node, and as a one-line summary.
-/

namespace PathRouting

namespace Node

variable {ε : Type} [Endpoint ε]

def line (indent : Nat) (label : Option Segment) (route : Option (Route ε)) : Text :=
  List.replicate (2 * indent) ' ' ++ label.elim ['/'] Segment.raw ++
    route.elim [] (fun r => " -> ".toList ++ Endpoint.name r.endpoint) ++ ['\n']

mutual

def lines (indent : Nat) : Node ε → List Text
  | mk label _ _ route children => line indent label route :: linesOf (indent + 1) children

def linesOf (indent : Nat) : List (Node ε) → List Text
  | [] => []
  | n :: ns => lines indent n ++ linesOf indent ns

end

end Node

namespace Tree

variable {ε : Type}

def outline [Endpoint ε] (t : Tree ε) : Text := (t.root.lines 0).flatten

def summary (t : Tree ε) : Text :=
  "RouteTree \x7b routes: ".toList ++ Text.ofNat t.size ++ ", selector: ".toList ++
    Text.quote t.selector ++ ", validators: ValidatorRegistry \x7b validators: ".toList ++
    Text.quoteList t.registry.keys ++ " \x7d \x7d".toList

end Tree

end PathRouting
