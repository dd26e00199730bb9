import PathRouting.Text.Quoted

/-! # Events

What is reported while patterns are registered, requests are answered and tables are loaded.  A
logged value carries the events that led to it, in order.
-/

namespace PathRouting

inductive Level where
  | trace
  | debug
  | info
  | warn
  | error
  deriving DecidableEq

namespace Level

def all : List Level := [.trace, .debug, .info, .warn, .error]

def word : Level → String
  | .trace => "TRACE"
  | .debug => "DEBUG"
  | .info => "INFO"
  | .warn => "WARN"
  | .error => "ERROR"

def named? (t : Text) : Option Level := all.find? (·.word.toList == Text.upperAscii t)

end Level

inductive Event where
  | registered (pattern endpoint : Text)
  | unknownValidator (validator segment : Text)
  | selectorNotExposed (endpoint pattern method : Text)
  | treeServed (count : Nat) (selector : Text) (first : List Text)
  | validatorMissing (validator : Text)
  | attempted (method path : Text)
  | matched (method path endpoint pattern : Text)
  | matchedSlowly (method path endpoint pattern : Text)
  | unmatched (method path : Text)
  | malformed (method path error : Text)
  | tableLoaded (path : Text) (controllers routes validators : Nat)
  | swapped (path : Text) (routes : Nat)
  | watching (path : Text)
  | reloadFailed (path error : Text)
  deriving DecidableEq

namespace Event

def level : Event → Level
  | .registered .. => .debug
  | .unknownValidator .. => .debug
  | .selectorNotExposed .. => .debug
  | .treeServed .. => .info
  | .validatorMissing .. => .warn
  | .attempted .. => .debug
  | .matched .. => .info
  | .matchedSlowly .. => .warn
  | .unmatched .. => .warn
  | .malformed .. => .warn
  | .tableLoaded .. => .info
  | .swapped .. => .info
  | .watching .. => .info
  | .reloadFailed .. => .error

def message : Event → String
  | .registered .. => "Route registered"
  | .unknownValidator .. => "Unknown validator, skipping branch"
  | .selectorNotExposed .. => "Default selector not exposed by endpoint"
  | .treeServed .. => "Routing table loaded"
  | .validatorMissing .. => "Routes reference an unregistered validator and will not match"
  | .attempted .. => "Route match attempt"
  | .matched .. => "Route matched"
  | .matchedSlowly .. => "Slow route matching detected"
  | .unmatched .. => "No route matched"
  | .malformed .. => "Malformed request path"
  | .tableLoaded .. => "Route table loaded"
  | .swapped .. => "hot-reload: route table swapped"
  | .watching .. => "Watching route table, press Ctrl-C to stop"
  | .reloadFailed .. => "hot-reload failed, keeping previous routes"

def fields : Event → List (String × Text)
  | .registered pattern endpoint => [("pattern", pattern), ("endpoint", endpoint)]
  | .unknownValidator validator segment => [("validator", validator), ("segment", segment)]
  | .selectorNotExposed endpoint pattern method =>
    [("endpoint", endpoint), ("pattern", pattern), ("method", method)]
  | .treeServed count selector first =>
    [("routes_count", Text.ofNat count), ("selector", selector),
      ("routes_summary", Text.quoteList first)]
  | .validatorMissing validator => [("validator", validator)]
  | .attempted method path => [("method", method), ("path", path)]
  | .matched method path endpoint pattern =>
    [("method", method), ("path", path), ("endpoint", endpoint), ("route_pattern", pattern)]
  | .matchedSlowly method path endpoint pattern =>
    [("method", method), ("path", path), ("endpoint", endpoint), ("route_pattern", pattern)]
  | .unmatched method path => [("method", method), ("path", path)]
  | .malformed method path error => [("method", method), ("path", path), ("error", error)]
  | .tableLoaded path controllers routes validators =>
    [("path", path), ("controllers", Text.ofNat controllers), ("routes", Text.ofNat routes),
      ("validators", Text.ofNat validators)]
  | .swapped path routes => [("path", path), ("routes", Text.ofNat routes)]
  | .watching path => [("path", path)]
  | .reloadFailed path error => [("path", path), ("error", error)]

end Event

structure Logged (α : Type) where
  value : α
  events : List Event

namespace Logged

instance : Monad Logged where
  pure a := ⟨a, []⟩
  bind x f :=
    let y := f x.value
    ⟨y.value, x.events ++ y.events⟩

def report (e : Event) : Logged Unit := ⟨(), [e]⟩

end Logged

end PathRouting
