import PathRouting.Proofs.Dictionary
import PathRouting.Table.Build

/-! # The parts of a table

Before any route is looked at, all validators of a table and all methods of its actions have to be
good.  Then each controller has the actions and methods that were written for it.
-/

namespace PathRouting

/-- What can only succeed with one value, and under one condition, fails without it. -/
theorem ok_or_error {κ α : Type} {x : Except κ α} {P : Prop} {a : α}
    (h : ∀ {b}, x = .ok b ↔ P ∧ b = a) : P ∧ x = .ok a ∨ ¬P ∧ ∃ e, x = .error e := by
  cases hx : x with
  | error e =>
    refine .inr ⟨fun hp => ?_, e, rfl⟩
    rw [h.2 ⟨hp, rfl⟩] at hx
    cases hx
  | ok b =>
    obtain ⟨hp, rfl⟩ := h.1 hx
    exact .inl ⟨hp, rfl⟩

namespace Method

variable {name : Text} {m : Method}

def ofName (name : Text) : Method := ⟨Text.upperAscii name⟩

/-- But for ASCII letter case, the name is the token of a supported method. -/
def IsName (name : Text) : Prop :=
  ∃ m ∈ supported, Text.upperAscii name = Text.upperAscii m.token

theorem upperAscii_token (h : m ∈ supported) : Text.upperAscii m.token = m.token := by
  have hall : ∀ m ∈ supported, Text.upperAscii m.token = m.token := by decide +kernel
  exact hall m h

theorem isName_iff : IsName name ↔ ofName name ∈ supported := by
  constructor
  · rintro ⟨m, hm, he⟩
    rwa [ofName, he, upperAscii_token hm]
  · intro h
    exact ⟨ofName name, h, (upperAscii_token h).symm⟩

theorem named?_eq_some : named? name = some m ↔ IsName name ∧ m = ofName name := by
  rw [isName_iff, named?]
  constructor
  · intro h
    have htoken : m.token = Text.upperAscii name := by simpa using List.find?_some h
    obtain rfl : m = ofName name := by rw [ofName, ← htoken]
    exact ⟨List.mem_of_find?_eq_some h, rfl⟩
  · rintro ⟨h, rfl⟩
    cases hf : supported.find? (·.token == Text.upperAscii name) with
    | none => exact absurd (beq_self_eq_true _) (List.find?_eq_none.1 hf _ h)
    | some m =>
      have htoken : m.token = Text.upperAscii name := by simpa using List.find?_some hf
      rw [ofName, ← htoken]

end Method

namespace ControllerSpec

/-- The controller of some name with these actions. -/
def controller (spec : ControllerSpec) (name : Text) : Controller :=
  ⟨name, spec.actions.map (·.map Method.ofName)⟩

/-- All methods named in actions are supported. -/
def MethodsSupported (spec : ControllerSpec) : Prop :=
  ∀ action ∈ spec.actions.entries, ∀ name ∈ action.2, Method.IsName name

end ControllerSpec

namespace Table

section

variable [Engine] {es : List (Text × Text)} {registry registry' : Registry}

/-- All expressions, each in a group after a start anchor, can be compiled. -/
def ExpressionsCompile (t : Table) : Prop :=
  ∀ e ∈ t.validators.entries, (Engine.compile? ("^(?:".toList ++ e.2 ++ [')'])).isSome = true

/-- The validator of an expression that the table has for a name, or else the built-in one. -/
def validator? (t : Table) (name : Text) : Option Validator :=
  match t.validators.get? name with
  | some expression =>
    (Engine.compile? ("^(?:".toList ++ expression ++ [')'])).map Validator.matching
  | none => Registry.builtIn.get? name

theorem exists_addValidators : (∃ registry', addValidators es registry = .ok registry') ↔
    ∀ e ∈ es, (Engine.compile? (Validator.anchored e.2)).isSome = true := by
  induction es generalizing registry with
  | nil => exact iff_of_true ⟨registry, rfl⟩ nofun
  | cons e es ih =>
    obtain ⟨name, expression⟩ := e
    rw [addValidators, Registry.addExpression?, List.forall_mem_cons]
    cases Engine.compile? (Validator.anchored expression) with
    | none => exact iff_of_false nofun nofun
    | some e => exact ih.trans (and_iff_right rfl).symm

/-- No name comes twice, so no validator of the table replaces another. -/
theorem get?_addValidators (hnodup : (es.map (·.1)).Nodup)
    (h : addValidators es registry = .ok registry') (name : Text) :
    registry'.get? name =
      match es.lookup name with
      | some expression =>
        (Engine.compile? (Validator.anchored expression)).map Validator.matching
      | none => registry.get? name := by
  induction es generalizing registry with
  | nil =>
    cases h
    rfl
  | cons e es ih =>
    obtain ⟨first, expression⟩ := e
    obtain ⟨hfirst, hnodup⟩ := List.nodup_cons.1 hnodup
    rw [addValidators, Registry.addExpression?] at h
    cases hcompile : Engine.compile? (Validator.anchored expression) with
    | none =>
      rw [hcompile] at h
      cases h
    | some e =>
      rw [hcompile] at h
      rw [ih hnodup h, Dictionary.lookup_cons_eq]
      by_cases hname : name = first
      · have hnone : es.lookup name = none := by
          rw [List.lookup_eq_none_iff]
          rintro ⟨other, _⟩ hother
          rw [bne_iff_ne, hname]
          rintro rfl
          exact hfirst (List.mem_map.2 ⟨_, hother, rfl⟩)
        rw [hnone, if_pos hname]
        simp [hname, hcompile]
      · rw [if_neg hname]
        simp [hname]

theorem validator?_of_addValidators {t : Table}
    (h : addValidators t.validators.entries .builtIn = .ok registry) (name : Text) :
    registry.get? name = t.validator? name :=
  get?_addValidators t.validators.nodup_keys h name

end

variable {c c' : Controller} {names : List Text} {name action : Text} {ms : List Method}

def MethodsSupported (t : Table) : Prop :=
  ∀ e ∈ t.controllers.entries, e.2.MethodsSupported

def endpoints (t : Table) : Dictionary Controller :=
  t.controllers.rebuild fun name spec => spec.controller name

theorem methods_eq_ok :
    methods name action names = .ok ms ↔
      (∀ name ∈ names, Method.IsName name) ∧ ms = names.map Method.ofName := by
  induction names generalizing ms with
  | nil => simp [methods, eq_comm]
  | cons first names ih =>
    rw [methods, List.forall_mem_cons, List.map_cons]
    cases hn : Method.named? first with
    | none =>
      have hno : ¬Method.IsName first := by
        intro hname
        rw [Method.named?_eq_some.2 ⟨hname, rfl⟩] at hn
        cases hn
      simp [hno]
    | some m =>
      obtain ⟨hname, rfl⟩ := Method.named?_eq_some.1 hn
      rcases ok_or_error ih with ⟨hall, hms⟩ | ⟨hno, e, hms⟩ <;> rw [hms]
      · rw [and_iff_right ⟨hname, hall⟩]
        simp [Except.map, eq_comm]
      · simp [Except.map, hno]

theorem addActions_eq_ok {es : List (Text × List Text)} :
    addActions c es = .ok c' ↔ (∀ e ∈ es, ∀ name ∈ e.2, Method.IsName name) ∧
      c' = es.foldl (fun c e => c.withAction e.1 (e.2.map Method.ofName)) c := by
  induction es generalizing c with
  | nil => simp [addActions, eq_comm]
  | cons e es ih =>
    obtain ⟨action, names⟩ := e
    rw [addActions, List.forall_mem_cons, List.foldl_cons]
    rcases ok_or_error (x := methods c.name action names) methods_eq_ok with
      ⟨hall, hms⟩ | ⟨hno, e, hms⟩ <;> rw [hms]
    · rw [and_assoc, and_iff_right hall]
      exact ih
    · simp [hno]

theorem foldl_withAction {es : List (Text × List Text)} :
    es.foldl (fun c e => c.withAction e.1 (e.2.map Method.ofName)) c =
      ⟨c.name, (es.map fun e => (e.1, e.2.map Method.ofName)).foldl
        (fun d e => d.insert e.1 e.2) c.actions⟩ := by
  induction es generalizing c with
  | nil => rfl
  | cons e es ih => rw [List.foldl_cons, ih, List.map_cons, List.foldl_cons]; rfl

theorem addActions_of_spec {spec : ControllerSpec} :
    addActions (.of name) spec.actions.entries = .ok c ↔
      spec.MethodsSupported ∧ c = spec.controller name := by
  have hfold : spec.actions.entries.foldl
      (fun c e => c.withAction e.1 (e.2.map Method.ofName)) (.of name) = spec.controller name := by
    rw [foldl_withAction, ControllerSpec.controller, ← Dictionary.rebuild_eq_map]
    rfl
  rw [addActions_eq_ok, hfold]
  rfl

theorem addControllers_eq_ok {es : List (Text × ControllerSpec)}
    {controllers controllers' : Dictionary Controller} :
    addControllers es controllers = .ok controllers' ↔ (∀ e ∈ es, e.2.MethodsSupported) ∧
      controllers' = (es.map fun e => (e.1, e.2.controller e.1)).foldl
        (fun d e => d.insert e.1 e.2) controllers := by
  induction es generalizing controllers with
  | nil => simp [addControllers, eq_comm]
  | cons e es ih =>
    obtain ⟨name, spec⟩ := e
    rw [addControllers, List.forall_mem_cons, List.map_cons, List.foldl_cons]
    rcases ok_or_error addActions_of_spec with ⟨hall, hc⟩ | ⟨hno, e, hc⟩ <;> rw [hc]
    · rw [and_assoc, and_iff_right hall]
      exact ih
    · simp [hno]

theorem addControllers_of_table {t : Table} {controllers : Dictionary Controller} :
    addControllers t.controllers.entries ∅ = .ok controllers ↔
      t.MethodsSupported ∧ controllers = t.endpoints :=
  addControllers_eq_ok

end Table

end PathRouting
