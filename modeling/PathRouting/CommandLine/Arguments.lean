import PathRouting.Text.Basic

/-! # Arguments of the command line

The first argument names a command; options and paths follow in any order.  The value of an option
is the argument after it, or is attached to it.  After `--` only paths follow.
-/

namespace PathRouting

inductive Command where
  | check (routes : Text)
  | resolve (routes method : Text) (paths : List Text)
  | list (routes : Text) (asTree : Bool)
  | watch (routes : Text)
  deriving DecidableEq

inductive UsageError where
  /-- Help was asked for. -/
  | help
  | missingCommand
  | unknownCommand
  | unknownArgument
  | missingArgument
  | repeatedOption
  /-- An option has no value, or an empty one that it does not take. -/
  | badValue
  /-- A value is attached to what takes none. -/
  | surplusValue
  deriving DecidableEq

namespace CommandLine

inductive Kind where
  | check
  | resolve
  | list
  | watch
  deriving DecidableEq

namespace Kind

def name : Kind → Text
  | .check => "check".toList
  | .resolve => "resolve".toList
  | .list => "routes".toList
  | .watch => "watch".toList

def named? (t : Text) : Option Kind := [check, resolve, list, watch].find? (·.name == t)

end Kind

inductive Setting where
  | routes
  | method
  deriving DecidableEq

namespace Setting

def word : Setting → Text
  | .routes => "routes".toList
  | .method => "method".toList

def letter : Setting → Char
  | .routes => 'r'
  | .method => 'm'

def ofKind : Kind → List Setting
  | .resolve => [.routes, .method]
  | _ => [.routes]

end Setting

/-- What the arguments gave so far, with the paths in reverse. -/
structure Given where
  routes : Option Text
  method : Option Text
  asTree : Bool
  paths : List Text

namespace Given

def nothing : Given := ⟨none, none, false, []⟩

def set (g : Given) (s : Setting) (value : Text) : Except UsageError Given :=
  match s with
  | .routes =>
    if g.routes.isSome then .error .repeatedOption
    else if value = [] then .error .badValue
    else .ok { g with routes := some value }
  | .method =>
    if g.method.isSome then .error .repeatedOption else .ok { g with method := some value }

def setTree (g : Given) : Except UsageError Given :=
  if g.asTree then .error .repeatedOption else .ok { g with asTree := true }

end Given

/-- An option that still waits for what follows, and its value if that was next. -/
structure Pending where
  setting : Setting
  value : Option Text

def settle (g : Given) : Option Pending → Except UsageError Given
  | none => .ok g
  | some ⟨_, none⟩ => .error .badValue
  | some ⟨s, some value⟩ => g.set s value

/-- What an argument is before `--`. -/
inductive Word where
  | escape
  | help
  /-- A switch with a value attached to it. -/
  | switchValue
  | tree
  | setting (s : Setting) (attached : Option Text)
  | unknown
  | operand (t : Text)

def Word.ofLong (kind : Kind) (t : Text) : Word :=
  let (name, attached) := match Text.cut? '=' t with
    | some (name, value) => (name, some value)
    | none => (t, none)
  let switch (w : Word) : Word := if attached.isSome then .switchValue else w
  if name = "help".toList then switch .help
  else if name = "tree".toList ∧ kind = .list then switch .tree
  else match (Setting.ofKind kind).find? (·.word == name) with
    | some s => .setting s attached
    | none => .unknown

def Word.ofShort (kind : Kind) (letter : Char) (rest : Text) : Word :=
  if letter = 'h' then .help
  else match (Setting.ofKind kind).find? (·.letter == letter) with
    | some s =>
      .setting s (match rest with
        | [] => none
        | '=' :: value => some value
        | value => some value)
    | none => .unknown

def Word.of (kind : Kind) : Text → Word
  | ['-', '-'] => .escape
  | '-' :: '-' :: t => .ofLong kind t
  | '-' :: letter :: rest => .ofShort kind letter rest
  | t => .operand t

def trailing (kind : Kind) (g : Given) (pending : Option Pending) :
    List Text → Except UsageError Given
  | [] => settle g pending
  | paths =>
    if kind = .resolve then
      (settle g pending).map fun g => { g with paths := paths.reverse ++ g.paths }
    else .error .unknownArgument

def read (kind : Kind) (g : Given) (pending : Option Pending) :
    List Text → Except UsageError Given
  | [] => settle g pending
  | arg :: args =>
    match Word.of kind arg with
    | .escape => trailing kind g pending args
    | .unknown => .error .unknownArgument
    | .switchValue => .error .surplusValue
    | .help => (settle g pending).bind fun _ => .error .help
    | .tree => do
      let g ← settle g pending
      let g ← g.setTree
      read kind g none args
    | .setting s none => do
      let g ← settle g pending
      read kind g (some ⟨s, none⟩) args
    | .setting s (some value) => do
      let g ← settle g pending
      let g ← g.set s value
      read kind g none args
    | .operand t =>
      match pending with
      | some ⟨s, none⟩ => read kind g (some ⟨s, some t⟩) args
      | pending =>
        if kind = .resolve then do
          let g ← settle g pending
          read kind { g with paths := t :: g.paths } none args
        else .error .unknownArgument

def usualMethod : Text := "GET".toList

def finish (kind : Kind) (g : Given) : Except UsageError Command :=
  match g.routes, kind with
  | none, _ => .error .missingArgument
  | some routes, .check => .ok (.check routes)
  | some routes, .list => .ok (.list routes g.asTree)
  | some routes, .watch => .ok (.watch routes)
  | some routes, .resolve =>
    if g.paths = [] then .error .missingArgument
    else .ok (.resolve routes (g.method.getD usualMethod) g.paths.reverse)

def helpWord : Text := "help".toList

def isTopic (t : Text) : Bool := t == helpWord || (Kind.named? t).isSome

def withoutCommand (arg : Text) (args : List Text) : UsageError :=
  match arg with
  | ['-', '-'] =>
    match args with
    | [] => .missingCommand
    | arg :: _ => if isTopic arg then .unknownArgument else .unknownCommand
  | '-' :: '-' :: t =>
    if t = helpWord then .help
    else if (Text.cut? '=' t).any (·.1 == helpWord) then .surplusValue
    else .unknownArgument
  | '-' :: letter :: _ => if letter = 'h' then .help else .unknownArgument
  | _ => .unknownCommand

def parse : List Text → Except UsageError Command
  | [] => .error .missingCommand
  | arg :: args =>
    match Kind.named? arg with
    | some kind => read kind .nothing none args >>= finish kind
    | none =>
      if arg = helpWord then
        match args with
        | [] => .error .help
        | [topic] => .error (if isTopic topic then .help else .unknownCommand)
        | _ => .error .unknownCommand
      else .error (withoutCommand arg args)

end CommandLine

end PathRouting
