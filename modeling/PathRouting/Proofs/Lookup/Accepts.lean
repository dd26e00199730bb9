import PathRouting.Proofs.Tree.Routes
import PathRouting.Tree.Lookup

/-! # Accepting routes

A lookup as a search of the list of routes, without a tree.  A route accepts the segments of a path
directly, with a rest marker, or with defaults for what the path leaves out; of the routes that
accept, the first in the order of branching answers.
-/

namespace PathRouting

variable {ε : Type}

def Sight.restText (v : Sight) (left : List Text) : Text :=
  let text := Text.join '/' left
  if v.slash && text != [] then text ++ ['/'] else text

namespace Routes

/-- A segment takes all of a text and binds the values of its slots. -/
inductive Takes (registry : Registry) : Segment → Text → List Binding → Prop
  | plain (t : Text) : Takes registry (.plain t) t []
  | slotted {raw t : Text} {ps : List Piece} {bs : List Binding}
      (fits : Fit.pieces registry ps t [] = (.fits, bs)) : Takes registry (.slotted raw ps) t bs

/-- Segments take texts, one each. -/
inductive TakesAll (registry : Registry) : List Segment → List Text → List Binding → Prop
  | nil : TakesAll registry [] [] []
  | cons {s : Segment} {ss : List Segment} {t : Text} {ts : List Text} {bs bs' : List Binding}
      (head : Takes registry s t bs) (tail : TakesAll registry ss ts bs') :
      TakesAll registry (s :: ss) (t :: ts) (bs ++ bs')

/-- After `walked`, none of the routes ends before `back` does or leaves it, and each segment of
`back` is a single slot with a default. -/
inductive Lapses (rs : List (Route ε)) :
    List Segment → List Segment → List Binding → Prop
  | nil {walked : List Segment} : Lapses rs walked [] []
  | cons {walked back : List Segment} {s : Segment} {b : Binding} {bs : List Binding}
      (free : ∀ r ∈ rs, r.segments ≠ walked)
      (only : ∀ r ∈ rs, ∀ s' more, r.segments = walked ++ s' :: more → s' = s)
      (optional : s.optional? = some b) (tail : Lapses rs (walked ++ [s]) back bs) :
      Lapses rs walked (s :: back) (b :: bs)

theorem TakesAll.length_eq {registry : Registry} {ss : List Segment} {ts : List Text}
    {bs : List Binding} (h : TakesAll registry ss ts bs) : ts.length = ss.length := by
  induction h with
  | nil => rfl
  | cons _ _ ih => simp [ih]

theorem Lapses.unique {rs : List (Route ε)} {walked back back' : List Segment}
    {bs bs' : List Binding} {r r' : Route ε} (h : Lapses rs walked back bs)
    (h' : Lapses rs walked back' bs') (hr : r ∈ rs) (hr' : r' ∈ rs)
    (hs : r.segments = walked ++ back) (hs' : r'.segments = walked ++ back') : back = back' := by
  induction h generalizing back' bs' with
  | nil =>
    cases h' with
    | nil => rfl
    | cons free => exact absurd (by simpa using hs) (free r hr)
  | cons free only _ _ ih =>
    cases h' with
    | nil => exact absurd (by simpa using hs') (free r' hr')
    | cons _ _ _ tail' =>
      obtain rfl := only r' hr' _ _ hs'
      rw [ih tail' (by simpa using hs) (by simpa using hs')]

theorem Lapses.anti {rs rs' : List (Route ε)} {walked back : List Segment} {bs : List Binding}
    (h : Lapses rs' walked back bs) (hsub : rs ⊆ rs') : Lapses rs walked back bs := by
  induction h with
  | nil => exact .nil
  | cons free only optional _ ih =>
    exact .cons (fun r hr => free r (hsub hr)) (fun r hr => only r (hsub hr)) optional ih

variable [Endpoint ε]

/-- The endpoint of a route supports the values bound to the selector. -/
def Exposes (v : Sight) (r : Route ε) (bs : List Binding) : Prop :=
  ∀ b ∈ bs, b.1 = v.selector → Endpoint.supports r.endpoint v.method b.2 = true

/-- Among the routes `rs`, the route `r` accepts the segments `left` of a path, of its own segments
having `todo` after `walked`. -/
inductive Accepts (rs : List (Route ε)) (v : Sight) (r : Route ε) (walked : List Segment) :
    List Segment → List Text → List Binding → Option Text → Prop
  | direct {todo : List Segment} {left : List Text} {bs : List Binding}
      (takes : TakesAll v.registry todo left bs) : Accepts rs v r walked todo left bs none
  | rest {front : List Segment} {taken left : List Text} {bs : List Binding}
      (takes : TakesAll v.registry front taken bs)
      (free : left = [] → ∀ r' ∈ rs, r'.segments ≠ walked ++ front) :
      Accepts rs v r walked (front ++ [.rest]) (taken ++ left) bs (some (v.restText left))
  | defaults {front back : List Segment} {left : List Text} {bs bs' : List Binding}
      (takes : TakesAll v.registry front left bs) (ne_nil : back ≠ [])
      (lapses : Lapses rs (walked ++ front) back bs') (exposes : Exposes v r bs') :
      Accepts rs v r walked (front ++ back) left (bs ++ bs') none

theorem Accepts.anti {rs rs' : List (Route ε)} {v : Sight} {r : Route ε}
    {walked todo : List Segment} {left : List Text} {bs : List Binding} {rest : Option Text}
    (h : Accepts rs' v r walked todo left bs rest) (hsub : rs ⊆ rs') :
    Accepts rs v r walked todo left bs rest := by
  cases h with
  | direct takes => exact .direct takes
  | rest takes free => exact .rest takes fun hleft r' hr' => free hleft r' (hsub hr')
  | defaults takes ne_nil lapses exposes =>
    exact .defaults takes ne_nil (lapses.anti hsub) exposes

/-- Where the two routes part, the first route on the side of `a` came before those of `b`. -/
def Precedes (rs : List (Route ε)) (a b : Route ε) : Prop :=
  ∃ common s s', common ++ [s] <+: a.raws ∧ common ++ [s'] <+: b.raws ∧
    earliest rs (common ++ [s]) < earliest rs (common ++ [s'])

/-- The route `r` goes on after `walked` and accepts the segments left there. -/
def AcceptsAfter (rs : List (Route ε)) (v : Sight) (walked : List Segment) (left : List Text)
    (r : Route ε) (bs : List Binding) (rest : Option Text) : Prop :=
  r ∈ rs ∧ ∃ todo, r.segments = walked ++ todo ∧ Accepts rs v r walked todo left bs rest

variable {rs : List (Route ε)} {v : Sight} {r : Route ε} {walked todo : List Segment}
  {left : List Text} {bs : List Binding} {rest : Option Text}

theorem Accepts.cons {s : Segment} {t : Text} {bs' : List Binding}
    (hs : Takes v.registry s t bs') (h : Accepts rs v r (walked ++ [s]) todo left bs rest) :
    Accepts rs v r walked (s :: todo) (t :: left) (bs' ++ bs) rest := by
  cases h with
  | direct takes => exact .direct (.cons hs takes)
  | @rest front taken left _ takes free =>
    exact (.rest (.cons hs takes) (by simpa using free) :
      Accepts rs v r walked ((s :: front) ++ [.rest]) ((t :: taken) ++ left) _ _)
  | @defaults front back _ bs bs'' takes ne_nil lapses exposes =>
    rw [← List.append_assoc]
    exact (.defaults (.cons hs takes) ne_nil (by simpa using lapses) exposes :
      Accepts rs v r walked ((s :: front) ++ back) (t :: left) _ _)

theorem Accepts.of_cons {s : Segment} {t : Text}
    (h : Accepts rs v r walked (s :: todo) (t :: left) bs rest) (hs : s ≠ .rest) :
    ∃ bs₁ bs₂, bs = bs₁ ++ bs₂ ∧ Takes v.registry s t bs₁ ∧
      Accepts rs v r (walked ++ [s]) todo left bs₂ rest := by
  generalize hss : s :: todo = ss at h
  generalize hts : t :: left = ts at h
  cases h with
  | direct takes =>
    subst hss hts
    cases takes with
    | cons head tail => exact ⟨_, _, rfl, head, .direct tail⟩
  | rest takes free =>
    cases takes with
    | nil => exact absurd (List.cons_eq_cons.1 hss).1 hs
    | cons head tail =>
      obtain ⟨rfl, rfl⟩ := List.cons_eq_cons.1 hss
      obtain ⟨rfl, rfl⟩ := List.cons_eq_cons.1 hts
      exact ⟨_, _, rfl, head, .rest tail (by simpa using free)⟩
  | defaults takes ne_nil lapses exposes =>
    cases takes with
    | nil => cases hts
    | cons head tail =>
      obtain ⟨rfl, rfl⟩ := List.cons_eq_cons.1 hss
      obtain ⟨rfl, rfl⟩ := List.cons_eq_cons.1 hts
      refine ⟨_, _, List.append_assoc .., head, .defaults tail ne_nil ?_ exposes⟩
      simpa using lapses

theorem not_accepts_nil {t : Text} : ¬Accepts rs v r walked [] (t :: left) bs rest := by
  intro h
  generalize hss : ([] : List Segment) = ss at h
  generalize hts : t :: left = ts at h
  cases h with
  | direct takes =>
    subst hss hts
    cases takes
  | rest takes free => simp at hss
  | defaults takes ne_nil lapses exposes => exact ne_nil (List.append_eq_nil_iff.1 hss.symm).2

theorem Accepts.of_nil (h : Accepts rs v r walked todo [] bs rest) :
    (todo = [] ∧ bs = [] ∧ rest = none) ∨
      (todo = [.rest] ∧ bs = [] ∧ rest = some (v.restText []) ∧
        ∀ r' ∈ rs, r'.segments ≠ walked) ∨
      (todo ≠ [] ∧ rest = none ∧ Lapses rs walked todo bs ∧ Exposes v r bs) := by
  generalize hts : ([] : List Text) = ts at h
  cases h with
  | direct takes =>
    subst hts
    cases takes
    exact .inl ⟨rfl, rfl, rfl⟩
  | rest takes free =>
    obtain ⟨rfl, rfl⟩ := List.append_eq_nil_iff.1 hts.symm
    cases takes
    exact .inr (.inl ⟨rfl, rfl, rfl, by simpa using free⟩)
  | defaults takes ne_nil lapses exposes =>
    subst hts
    cases takes
    exact .inr (.inr ⟨ne_nil, rfl, by simpa using lapses, exposes⟩)

/-- A route that accepts ends with a rest marker, or is as long as the path or longer. -/
theorem Accepts.length_le (h : Accepts rs v r walked todo left bs rest) :
    todo.getLast? = some .rest ∨ left.length ≤ todo.length := by
  cases h with
  | direct takes => exact .inr (Nat.le_of_eq takes.length_eq)
  | rest takes free => exact .inl (by simp)
  | defaults takes ne_nil lapses exposes =>
    right
    rw [takes.length_eq, List.length_append]
    exact Nat.le_add_right _ _

end Routes

end PathRouting
