import PathRouting.Text.Basic

/-! # Methods

A request method is a token; letter case matters.
-/

namespace PathRouting

structure Method where
  token : Text
  deriving DecidableEq

namespace Method

def isTokenChar (c : Char) : Bool := c.isAlphanum || "!#$%&'*+-.^_`|~".toList.contains c

def ofText? (t : Text) : Option Method :=
  if t != [] && t.all isTokenChar then some ⟨t⟩ else none

def get : Method := ⟨"GET".toList⟩

def head : Method := ⟨"HEAD".toList⟩

def supported : List Method :=
  ["GET", "POST", "PUT", "DELETE", "PATCH", "OPTIONS", "HEAD", "TRACE"].map (⟨·.toList⟩)

def named? (name : Text) : Option Method :=
  supported.find? (·.token == Text.upperAscii name)

def unsupportedMessage (name : Text) : Text :=
  "Unsupported HTTP method '".toList ++ name ++ "'".toList

end Method

end PathRouting
