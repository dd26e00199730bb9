import PathRouting.Proofs.Lookup.Params
import PathRouting.Proofs.Lookup.Pruning
import PathRouting.Proofs.Pattern.Scan
import PathRouting.Proofs.Validator.Offset

/-! # Lookups by index

A walk that finds the text for a node by the node's depth, and the text for a piece by its offset in
the segment.  All its indices and offsets are in bounds, and it comes to what the walk comes to that
takes the texts one after the other.
-/

namespace PathRouting

namespace Fit

/-- Like `pieces`, for the pieces from an offset of the segment on. -/
def piecesFrom? (registry : Registry) (segment : Text) :
    List Piece → Nat → List Binding → Option (Fit × List Binding)
  | [], cursor, bs => do
    let _ ← Text.sliceFrom? segment cursor
    pure (if cursor = Text.byteLength segment then .fits else .differs, bs)
  | .literal l :: ps, cursor, bs => do
    let left ← Text.sliceFrom? segment cursor
    if l.isPrefixOf left then piecesFrom? registry segment ps (cursor + Text.byteLength l) bs
    else pure (.differs, bs)
  | .slot name rule :: ps, cursor, bs => do
    let left ← Text.sliceFrom? segment cursor
    match registry.get? rule.validator with
    | none => pure (.unknown rule.validator, bs)
    | some validator =>
      let matched := Text.byteLength (validator rule left)
      match Text.sliceTo? left matched with
      | some value =>
        if value = [] then pure (.differs, bs)
        else piecesFrom? registry segment ps (cursor + matched) (bs ++ [(name, value)])
      | none => pure (.differs, bs)

def segmentByOffset? (registry : Registry) : Segment → Text → List Binding →
    Option (Fit × List Binding)
  | .slotted _ ps, t, bs => piecesFrom? registry t ps 0 bs
  | s, t, bs => pure (segment registry s t bs)

theorem piecesFrom?_eq (registry : Registry) (ps : List Piece) (front t : Text)
    (bs : List Binding) :
    piecesFrom? registry (front ++ t) ps (Text.byteLength front) bs =
      some (pieces registry ps t bs) := by
  induction ps generalizing front t bs with
  | nil =>
    have hend : Text.byteLength front = Text.byteLength (front ++ t) ↔ t = [] := by
      rw [Text.byteLength_append, ← Text.byteLength_eq_zero]
      omega
    rw [piecesFrom?, Text.sliceFrom?_append, pieces, ← if_congr hend rfl rfl]
    rfl
  | cons p ps ih =>
    cases p with
    | literal l =>
      simp only [piecesFrom?, pieces, Text.sliceFrom?_append, Option.bind_eq_bind,
        Option.bind_some]
      cases hdrop : Text.dropPrefix? t l with
      | none =>
        rw [Text.dropPrefix?_eq_none hdrop]
        rfl
      | some t' =>
        obtain rfl := Text.dropPrefix?_eq_some.1 hdrop
        have hmore := ih (front ++ l) t' bs
        rw [Text.byteLength_append, List.append_assoc] at hmore
        rw [if_pos (List.isPrefixOf_iff_prefix.2 ⟨t', rfl⟩)]
        exact hmore
    | slot name rule =>
      simp only [piecesFrom?, pieces, Text.sliceFrom?_append, Option.bind_eq_bind,
        Option.bind_some]
      cases registry.get? rule.validator with
      | none => rfl
      | some validator =>
        dsimp only [Text.sliceTo?]
        cases hcut : Text.cutBytes? t (Text.byteLength (validator rule t)) with
        | none => rfl
        | some cut =>
          obtain ⟨value, t'⟩ := cut
          obtain ⟨rfl, hlen⟩ := Text.cutBytes?_eq_some.1 hcut
          have hmore := ih (front ++ value) t' (bs ++ [(name, value)])
          rw [Text.byteLength_append, List.append_assoc, hlen] at hmore
          simp only [Option.map_some, hmore]
          exact (apply_ite some _ _ _).symm

theorem segmentByOffset?_eq (registry : Registry) (s : Segment) (t : Text) (bs : List Binding) :
    segmentByOffset? registry s t bs = some (segment registry s t bs) := by
  cases s with
  | slotted raw ps => exact piecesFrom?_eq registry ps [] t bs
  | _ => rfl

end Fit

namespace Node

variable {ε : Type} [Endpoint ε]

def exposesFrom? (q : Sight) (r : Route ε) (mark : Nat) (bs : List Binding) : Option Bool :=
  if mark ≤ bs.length then some (exposes q r mark bs) else none

def fallBackByIndex? (q : Sight) (mark : Nat) : Node ε → Trail → Option (Option (Hit ε) × Trail)
  | mk _ _ _ _ [child], trail =>
    match child.optional? with
    | none => pure (none, trail.cutBack mark)
    | some b =>
      let trail := trail.bind b
      match child.route with
      | none => fallBackByIndex? q mark child trail
      | some r => do
        if ← exposesFrom? q r mark trail.bindings then pure (some ⟨r, none⟩, trail)
        else
          let event := .selectorNotExposed (Endpoint.name r.endpoint) r.pattern q.method.token
          pure (none, (trail.report event).cutBack mark)
  | _, trail => pure (none, trail.cutBack mark)

def settleByIndex? (q : Sight) (parts : List Text) (n : Node ε) (trail : Trail) :
    Option (Option (Hit ε) × Trail) :=
  match n.route with
  | some r => pure (some ⟨r, none⟩, trail)
  | none =>
    match n.children.find? isRest with
    | some child => pure (takeRest q child.route (parts.drop parts.length), trail)
    | none => fallBackByIndex? q trail.bindings.length n trail

def indexBefore? : Nat → Option Nat
  | 0 => none
  | i + 1 => some i

/-- Like `enter`, with the text for the node at the index before its depth. -/
def enterByIndex? (q : Sight) (parts : List Text)
    (below : Trail → Option (Option (Hit ε) × Trail)) (n : Node ε) (trail : Trail) :
    Option (Option (Hit ε) × Trail) := do
  let i ← indexBefore? n.depth
  let t ← parts[i]?
  match n.label with
  | some .rest => pure (takeRest q n.route (parts.drop i), trail)
  | some s =>
    let mark := trail.bindings.length
    match ← Fit.segmentByOffset? q.registry s t trail.bindings with
    | (.fits, bs) =>
      let trail := { trail with bindings := bs }
      Option.map (orCutBack mark) <|
        if n.depth = parts.length then settleByIndex? q parts n trail else below trail
    | (.differs, bs) => pure (none, { trail with bindings := bs }.cutBack mark)
    | (.unknown validator, bs) =>
      let trail := { trail with bindings := bs }.report (.unknownValidator validator s.raw)
      pure (none, trail.cutBack mark)
  | none => pure (none, trail)

mutual

def descendByIndex? (q : Sight) (parts : List Text) :
    Node ε → Trail → Option (Option (Hit ε) × Trail)
  | mk label depth height route children, trail =>
    if reaches depth height parts.length then
      enterByIndex? q parts (fun trail => firstHitByIndex? q parts children trail)
        (mk label depth height route children) trail
    else pure (none, trail)
termination_by structural n => n

def firstHitByIndex? (q : Sight) (parts : List Text) :
    List (Node ε) → Trail → Option (Option (Hit ε) × Trail)
  | [], trail => pure (none, trail)
  | n :: ns, trail => do
    match ← descendByIndex? q parts n trail with
    | (some hit, trail) => pure (some hit, trail)
    | (none, trail) => firstHitByIndex? q parts ns trail
termination_by structural ns => ns

end

def walkByIndex? (q : Sight) (n : Node ε) : List Text → Option (Option (Hit ε) × Trail)
  | [] => settleByIndex? q [] n .start
  | parts => firstHitByIndex? q parts n.children .start

/-! ## Walks by index -/

open Routes

variable {rs : List (Route ε)} {v : Sight} {p : List Segment} {parts : List Text} {n : Node ε}
  {trail : Trail}

theorem exposesFrom?_eq {r : Route ε} {mark : Nat} {bs : List Binding} (h : mark ≤ bs.length) :
    exposesFrom? v r mark bs = some (exposes v r mark bs) := if_pos h

theorem fallBackByIndex?_eq {mark : Nat} (h : mark ≤ trail.bindings.length) :
    fallBackByIndex? v mark n trail = some (fallBack v mark n trail) := by
  have hbind {trail : Trail} (b : Binding) (h : mark ≤ trail.bindings.length) :
      mark ≤ (trail.bind b).bindings.length := by
    rw [Trail.bind, List.length_append]
    omega
  fun_induction fallBack v mark n trail with
  | case1 _ _ _ _ child trail ho =>
    simp only [fallBackByIndex?, ho]
    rfl
  | case2 _ _ _ _ child trail b ho _ hr ih =>
    simp only [fallBackByIndex?, ho, hr]
    exact ih (hbind b h)
  | case3 _ _ _ _ child trail b ho _ r hr hexposes =>
    simp only [fallBackByIndex?, ho, hr, exposesFrom?_eq (hbind b h)]
    exact if_pos hexposes
  | case4 _ _ _ _ child trail b ho _ r hr hexposes =>
    simp only [fallBackByIndex?, ho, hr, exposesFrom?_eq (hbind b h)]
    exact if_neg hexposes
  | case5 n trail hone =>
    rw [fallBackByIndex?]
    · rfl
    · exact hone

theorem settleByIndex?_eq : settleByIndex? v parts n trail = some (settle v n trail) := by
  unfold settleByIndex? settle
  cases n.route with
  | some r => rfl
  | none =>
    cases n.children.find? isRest with
    | some c =>
      rw [List.drop_length]
      rfl
    | none => exact fallBackByIndex?_eq (Nat.le_refl _)

theorem enterByIndex?_eq {below? : Trail → Option (Option (Hit ε) × Trail)}
    {below : List Text → Trail → Option (Hit ε) × Trail} {i : Nat} (hdepth : n.depth = i + 1)
    (hi : i < parts.length) (hbelow : i + 1 < parts.length → ∀ trail,
      below? trail = some (below (parts.drop (i + 1)) trail)) :
    enterByIndex? v parts below? n trail = some (enter v below n (parts.drop i) trail) := by
  -- the path ends at the node if and only if no texts are left after it
  have hfound (trail : Trail) :
      (if i + 1 = parts.length then settleByIndex? v parts n trail else below? trail) =
        some (if (parts.drop (i + 1)).isEmpty then settle v n trail
          else below (parts.drop (i + 1)) trail) := by
    simp only [List.isEmpty_iff, List.drop_eq_nil_iff]
    by_cases hend : i + 1 = parts.length
    · rw [if_pos hend, if_pos (Nat.le_of_eq hend.symm), settleByIndex?_eq]
    · rw [if_neg hend, if_neg (by omega), hbelow (by omega)]
  unfold enterByIndex? enter
  rw [hdepth, List.drop_eq_getElem_cons hi]
  simp only [indexBefore?, List.getElem?_eq_getElem hi, Option.bind_eq_bind, Option.bind_some,
    Fit.segmentByOffset?_eq, hfound, Option.map_some]
  cases n.label with
  | none => rfl
  | some s =>
    cases s with
    | rest =>
      rw [← List.drop_eq_getElem_cons hi]
      rfl
    | _ =>
      dsimp only
      generalize Fit.segment v.registry _ _ trail.bindings = fared
      obtain ⟨fit, bs⟩ := fared
      cases fit with
      | _ => rfl

theorem descendByIndex?_eq_enter : descendByIndex? v parts n trail =
    if reaches n.depth n.height parts.length then
      enterByIndex? v parts (firstHitByIndex? v parts n.children) n trail
    else pure (none, trail) := by
  cases n
  rw [descendByIndex?]
  rfl

theorem firstHitByIndex?_eq {cs : List (Node ε)} {left : List Text}
    (hcs : ∀ c ∈ cs, ∀ trail, descendByIndex? v parts c trail = some (descend v c left trail)) :
    firstHitByIndex? v parts cs trail = some (firstHit v cs left trail) := by
  induction cs generalizing trail with
  | nil => simp [firstHitByIndex?, firstHit]
  | cons c cs ih =>
    obtain ⟨hc, hcs⟩ := List.forall_mem_cons.1 hcs
    rw [firstHitByIndex?, firstHit, hc]
    cases descend v c left trail with
    | mk hit trail =>
      cases hit with
      | some hit => rfl
      | none => exact ih hcs

/-- The depth of a node is the number of texts taken when the walk is at it. -/
theorem Grown.descendByIndex?_eq (h : Grown rs p n) (hparts : parts.length = v.length) {i : Nat}
    (hdepth : n.depth = i + 1) (hi : i < parts.length) :
    descendByIndex? v parts n trail = some (descend v n (parts.drop i) trail) := by
  induction h generalizing i trail with
  | @mk p n placed children ih =>
    have hg : Grown rs p n := .mk placed children
    rw [descendByIndex?_eq_enter, hparts]
    cases hreach : reaches n.depth n.height v.length with
    | false =>
      rw [descend_of_not_reaches hreach]
      rfl
    | true =>
      rw [descend_of_reaches hreach, if_pos rfl]
      refine enterByIndex?_eq hdepth hi fun hnext trail => ?_
      refine firstHitByIndex?_eq fun c hc trail => ?_
      exact ih c hc (by rw [hg.child_depth hc, hdepth]) hnext

theorem Grown.walkByIndex?_eq (h : Grown rs [] n) (hparts : parts.length = v.length) :
    walkByIndex? v n parts = some (walk v n parts) := by
  cases parts with
  | nil => exact settleByIndex?_eq
  | cons t left =>
    refine firstHitByIndex?_eq fun c hc trail => ?_
    refine (h.child hc).descendByIndex?_eq hparts (i := 0) ?_ (Nat.zero_lt_succ _)
    rw [h.child_depth hc, h.placed.depth]
    rfl

end Node

namespace Tree

variable {ε : Type} [Endpoint ε] {t : Tree ε}

/-- The answer to a request by a walk by index. -/
def lookupByIndex? (t : Tree ε) (method : Method) (path : Text) : Option (Outcome ε) :=
  match Path.segments path with
  | none => pure (.malformed path)
  | some s => do
    let (hit, trail) ← t.root.walkByIndex? (t.sight method path s) s
    pure (hit.elim .notFound fun hit => .matched (.ofHit t.selector hit trail.bindings))

theorem lookupByIndex?_eq (h : t.Reachable) (method : Method) (path : Text) :
    t.lookupByIndex? method path = some (t.lookup method path) := by
  unfold lookupByIndex?
  cases hs : Path.segments path with
  | none => rw [lookup_of_malformed hs]; rfl
  | some s =>
    have hwalk : t.root.walkByIndex? (t.sight method path s) s =
        some (t.root.walk (t.sight method path s) s) :=
      h.sound.grown.walkByIndex?_eq rfl
    dsimp only
    rw [lookup_eq_walk hs, hwalk]
    rfl

/-- Whatever is registered and asked for, every index is within its list and every slice lies
between characters: readings that fail on any other come to what the readings without indices come
to. -/
theorem indices_in_bounds (h : t.Reachable) :
    (∀ method path, t.lookupByIndex? method path = some (t.lookup method path)) ∧
      (∀ names raw, Pattern.slottedByOffset names raw =
        (Pattern.slotted names raw).mapError .fault) ∧
      (∀ rule text, Validator.digitsByOffset rule text = some (Validator.digits rule text)) ∧
      (∀ rule text, Validator.wordByOffset rule text = some (Validator.word rule text)) ∧
      (∀ rule text, Validator.actionByOffset rule text = some (Validator.action rule text)) ∧
      (∀ rule text, Validator.choiceByOffset rule text = some (Validator.choice rule text)) ∧
      ∀ [Engine] (e : Engine.Expression) rule text, Validator.matchingByOffset e rule text =
        some (Validator.matching e rule text) :=
  ⟨lookupByIndex?_eq h, Pattern.slottedByOffset_eq, Validator.digitsByOffset_eq,
    Validator.wordByOffset_eq, Validator.actionByOffset_eq, Validator.choiceByOffset_eq,
    Validator.matchingByOffset_eq⟩

/-- The page and the choices have characters of two bytes. -/
theorem belowPage_in_bounds :
    pages.Reachable ∧ pages.lookupByIndex? .get belowPage = some (.matched belowPageMatch) ∧
      Validator.choiceByOffset ((Rule.of "enum".toList).withChoices "è|é".toList) "éa".toList =
        some "é".toList := by
  obtain ⟨hlookup, -, -, -, -, hchoice, -⟩ := indices_in_bounds pages_reachable
  refine ⟨pages_reachable, ?_, ?_⟩
  · rw [hlookup, lookup_belowPage]
  · rw [hchoice]
    decide +kernel

end Tree

end PathRouting
