import PathRouting.Dictionary

/-! # Route tables

A table names the selector, adds validators by their expressions, describes controllers by the
actions they expose, and lists the routes in the order they are registered.
-/

namespace PathRouting

structure ControllerSpec where
  actions : Dictionary (List Text)
  deriving DecidableEq

structure RouteSpec where
  pattern : Text
  controller : Text
  deriving DecidableEq

structure Table where
  selector : Option Text
  validators : Dictionary Text
  controllers : Dictionary ControllerSpec
  routes : List RouteSpec
  deriving DecidableEq

end PathRouting
