import PathRouting.Validator.Expression
import PathRouting.Proofs.Regex.Items

/-! # Expressions in a group

An expression that is one by itself is the whole content of a group that it is put into.
-/

namespace PathRouting

namespace Regex

variable {fuel fuel' around around' : Nat} {x : Context} {done : List Draft} {last : Option Draft}
  {t t' u u' v : Text} {r r' : Draft × Context × Text}

/-! ## What one step takes -/

def AtEnd (t : Text) : Prop := t = [] ∨ (∃ u, t = '|' :: u) ∨ ∃ u, t = ')' :: u

theorem itemsOf_of_end (hskip : x.flags.skip t = u) (hend : AtEnd u)
    (hread : itemsOf (fuel + 1) around x done last t = some r) :
    r = (.above sequence (last.toList ++ done).reverse, x, u) := by
  unfold itemsOf at hread
  dsimp only at hread
  rw [hskip] at hread
  rcases hend with rfl | ⟨v, rfl⟩ | ⟨v, rfl⟩ <;> cases hread <;> rfl

theorem itemsOf_of_open (hskip : x.flags.skip t = '(' :: u)
    (hread : itemsOf (fuel + 1) around x done last t = some r) :
    (∃ f v, opening x u = some (.flags f v) ∧
      itemsOf fuel around { x with flags := f } (.nothing :: (last.toList ++ done)) none v =
        some r) ∨
    ∃ number? inner v d y w, opening x u = some (.group number? inner v) ∧
      branchesOf fuel (around + 1) inner [] v = some (d, y, ')' :: w) ∧
      itemsOf fuel around { y with flags := x.flags } (last.toList ++ done)
        (some ⟨number?.elim d.regex (Regex.group · d.regex), d.depth + 1⟩) w = some r := by
  unfold itemsOf at hread
  dsimp only at hread
  rw [hskip] at hread
  obtain ⟨o, ho, hread⟩ := Option.bind_eq_some_iff.1 hread
  cases o with
  | flags f v => exact .inl ⟨f, v, ho, hread⟩
  | group number? inner v =>
    dsimp only at hread
    split at hread
    · cases hread
    obtain ⟨⟨d, y, w⟩, hbranches, hread⟩ := Option.bind_eq_some_iff.1 hread
    dsimp only at hread
    split at hread
    · exact .inr ⟨number?, inner, v, d, y, _, ho, hbranches, hread⟩
    · cases hread

def greed : Text → Bool × Text
  | '?' :: t => (false, t)
  | t => (true, t)

theorem itemsOf_of_item (hskip : x.flags.skip t = u) (hend : ¬AtEnd u) (hopen : ∀ v, u ≠ '(' :: v)
    (hread : itemsOf (fuel + 1) around x done last t = some r) :
    (∃ bounds v d, operator? x.flags u = some (some (bounds, v)) ∧ last = some d ∧
      itemsOf fuel around x done
        (some ⟨repeated d.regex bounds.1 bounds.2 ((greed v).1 != x.flags.swapGreed),
          d.depth + 1⟩) (greed v).2 = some r) ∨
    ∃ d v, operator? x.flags u = some none ∧ atom x.flags u = some (d, v) ∧
      itemsOf fuel around x (last.toList ++ done) (some d) v = some r := by
  unfold itemsOf at hread
  dsimp only at hread
  rw [hskip] at hread
  split at hread
  · exact absurd (.inl rfl) hend
  · exact absurd (.inr (.inl ⟨_, rfl⟩)) hend
  · exact absurd (.inr (.inr ⟨_, rfl⟩)) hend
  · exact absurd rfl (hopen _)
  obtain ⟨o, ho, hread⟩ := Option.bind_eq_some_iff.1 hread
  cases o with
  | none =>
    obtain ⟨⟨d, v⟩, hatom, hread⟩ := Option.bind_eq_some_iff.1 hread
    exact .inr ⟨d, v, ho, hatom, hread⟩
  | some read =>
    obtain ⟨⟨least, most⟩, v⟩ := read
    obtain ⟨d, hd, hread⟩ := Option.bind_eq_some_iff.1 hread
    refine .inl ⟨(least, most), v, d, ho, hd, ?_⟩
    exact hread

theorem branchesOf_succ (hread : branchesOf (fuel + 1) around x done t = some r) :
    ∃ d y u, itemsOf fuel around x [] none t = some (d, y, u) ∧
      ((∃ v, u = '|' :: v ∧ branchesOf fuel around y (d :: done) v = some r) ∨
        (∀ v, u ≠ '|' :: v) ∧ r = (.above alternatives (d :: done).reverse, y, u)) := by
  unfold branchesOf at hread
  obtain ⟨⟨d, y, u⟩, hitems, hread⟩ := Option.bind_eq_some_iff.1 hread
  refine ⟨d, y, u, hitems, ?_⟩
  dsimp only at hread
  split at hread
  · exact .inl ⟨_, rfl, hread⟩
  · rename_i hbar
    cases hread
    exact .inr ⟨hbar, rfl⟩

/-! ## Two readings -/

theorem enclosed_greed (h : Enclosed t t') :
    (greed t').1 = (greed t).1 ∧ Enclosed (greed t).2 (greed t').2 := by
  by_cases hmark : ∃ u, t = '?' :: u
  · obtain ⟨u, rfl⟩ := hmark
    obtain ⟨u', rfl, hu⟩ := h.of_cons
    exact ⟨rfl, hu⟩
  · push Not at hmark
    rw [greed, greed]
    · exact ⟨rfl, h⟩
    · exact hmark
    · exact h.not_cons (by decide) hmark

/-- What two readings of the same have in common. -/
structure Agree (r r' : Draft × Context × Text) : Prop where
  draft : r'.1 = r.1
  context : r'.2.1 = r.2.1
  rest : Enclosed r.2.2 r'.2.2

/-- Whatever the fuel and the depth of the other reading are. -/
def BranchesAgree (fuel : Nat) : Prop :=
  ∀ {fuel' around around' x done t t' r r'}, Enclosed t t' →
    branchesOf fuel around x done t = some r → branchesOf fuel' around' x done t' = some r' →
      Agree r r'

def ItemsAgree (fuel : Nat) : Prop :=
  ∀ {fuel' around around' x done last t t' r r'}, Enclosed t t' →
    itemsOf fuel around x done last t = some r → itemsOf fuel' around' x done last t' = some r' →
      Agree r r'

theorem BranchesAgree.succ (hbranches : BranchesAgree fuel) (hitems : ItemsAgree fuel) :
    BranchesAgree (fuel + 1) := by
  intro fuel' around around' x done t t' r r' h hread hread'
  cases fuel' with
  | zero => cases hread'
  | succ fuel' =>
    obtain ⟨d, y, u, hd, hrest⟩ := branchesOf_succ hread
    obtain ⟨d', y', u', hd', hrest'⟩ := branchesOf_succ hread'
    obtain ⟨rfl, rfl, hu⟩ := hitems h hd hd'
    dsimp only at hrest hrest' hu
    rcases hrest with ⟨v, rfl, hmore⟩ | ⟨hbar, rfl⟩
    · obtain ⟨v', rfl, hv⟩ := hu.of_cons
      rcases hrest' with ⟨w, hw, hmore'⟩ | ⟨hbar', -⟩
      · cases hw
        exact hbranches hv hmore hmore'
      · exact absurd rfl (hbar' v')
    · rcases hrest' with ⟨w, rfl, -⟩ | ⟨-, rfl⟩
      · exact absurd rfl (hu.not_cons (by decide) hbar w)
      · exact ⟨rfl, rfl, hu⟩

theorem atEnd_iff (h : Enclosed t t') : AtEnd t' ↔ AtEnd t := by
  cases t with
  | nil => rcases h.of_nil with rfl | rfl <;> simp [AtEnd]
  | cons c t =>
    obtain ⟨u, rfl, -⟩ := h.of_cons
    simp [AtEnd]

theorem agree_of_open (hbranches : BranchesAgree fuel) (hitems : ItemsAgree fuel)
    (h : Enclosed u u') (hu : x.flags.skip t = '(' :: u) (hu' : x.flags.skip t' = '(' :: u')
    (hread : itemsOf (fuel + 1) around x done last t = some r)
    (hread' : itemsOf (fuel' + 1) around' x done last t' = some r') : Agree r r' := by
  have hread' := itemsOf_of_open hu' hread'
  rcases itemsOf_of_open hu hread with
    ⟨f, v, ho, hmore⟩ | ⟨number?, inner, v, d, y, w, ho, hinner, hmore⟩
  · obtain ⟨o', ho', hv⟩ := enclosed_opening h ho
    cases hv with
    | flags f hv =>
      rcases hread' with ⟨_, _, h₁, hmore'⟩ | ⟨_, _, _, _, _, _, h₁, -, -⟩
      · cases ho'.symm.trans h₁
        exact hitems hv hmore hmore'
      · cases ho'.symm.trans h₁
  · obtain ⟨o', ho', hv⟩ := enclosed_opening h ho
    cases hv with
    | group number? inner hv =>
      rcases hread' with ⟨_, _, h₁, -⟩ | ⟨_, _, _, d', y', _, h₁, hinner', hmore'⟩
      · cases ho'.symm.trans h₁
      · cases ho'.symm.trans h₁
        -- The group has to be closed in both, so the parenthesis behind the text does not close it.
        obtain ⟨rfl, rfl, hrest⟩ := hbranches hv hinner hinner'
        obtain ⟨w', hw', hw⟩ := hrest.of_cons
        cases hw'
        exact hitems hw hmore hmore'

theorem agree_of_item (hitems : ItemsAgree fuel) (h : Enclosed u u') (hu : x.flags.skip t = u)
    (hu' : x.flags.skip t' = u') (hend : ¬AtEnd u) (hopen : ∀ v, u ≠ '(' :: v)
    (hread : itemsOf (fuel + 1) around x done last t = some r)
    (hread' : itemsOf (fuel' + 1) around' x done last t' = some r') : Agree r r' := by
  have hread' := itemsOf_of_item hu' (mt (atEnd_iff h).1 hend) (h.not_cons (by decide) hopen) hread'
  rcases itemsOf_of_item hu hend hopen hread with
    ⟨bounds, v, d, hoperator, hlast, hmore⟩ | ⟨d, v, hoperator, hatom, hmore⟩
  · obtain ⟨v', hoperator', hv⟩ := operator?_eq_some h hoperator
    rcases hread' with ⟨_, _, d', h₁, h₂, hmore'⟩ | ⟨_, _, h₁, -, -⟩
    · cases hoperator'.symm.trans h₁
      cases hlast.symm.trans h₂
      obtain ⟨hgreed, hrest⟩ := enclosed_greed hv
      rw [hgreed] at hmore'
      exact hitems hrest hmore hmore'
    · cases hoperator'.symm.trans h₁
  · have hoperator' := operator?_eq_none h hoperator
    obtain ⟨v', hatom', hv⟩ := h.read (steady_atom x.flags) hatom
    rcases hread' with ⟨_, _, _, h₁, -, -⟩ | ⟨_, _, -, h₁, hmore'⟩
    · cases hoperator'.symm.trans h₁
    · cases hatom'.symm.trans h₁
      exact hitems hv hmore hmore'

theorem ItemsAgree.succ (hbranches : BranchesAgree fuel) (hitems : ItemsAgree fuel) :
    ItemsAgree (fuel + 1) := by
  intro fuel' around around' x done last t t' r r' h hread hread'
  cases fuel' with
  | zero => cases hread'
  | succ fuel' =>
    have hskip := h.skip x.flags
    obtain ⟨u, hu⟩ : ∃ u, x.flags.skip t = u := ⟨_, rfl⟩
    obtain ⟨u', hu'⟩ : ∃ u', x.flags.skip t' = u' := ⟨_, rfl⟩
    rw [hu, hu'] at hskip
    by_cases hend : AtEnd u
    · obtain rfl := itemsOf_of_end hu hend hread
      obtain rfl := itemsOf_of_end hu' ((atEnd_iff hskip).2 hend) hread'
      exact ⟨rfl, rfl, hskip⟩
    by_cases hopen : ∃ v, u = '(' :: v
    · obtain ⟨v, rfl⟩ := hopen
      obtain ⟨v', rfl, hv⟩ := hskip.of_cons
      exact agree_of_open hbranches hitems hv hu hu' hread hread'
    · push Not at hopen
      exact agree_of_item hitems hskip hu hu' hend hopen hread hread'

theorem readings_agree (fuel : Nat) : BranchesAgree fuel ∧ ItemsAgree fuel := by
  induction fuel with
  | zero =>
    constructor
    · intro fuel' around around' x done t t' r r' _ hread
      cases hread
    · intro fuel' around around' x done last t t' r r' _ hread
      cases hread
  | succ fuel ih => exact ⟨BranchesAgree.succ ih.1 ih.2, ItemsAgree.succ ih.1 ih.2⟩

theorem parse_eq_some {r : Regex} (h : parse t = some r) : ∃ fuel d y,
    branchesOf fuel 0 ⟨.off, [], 0⟩ [] t = some (d, y, []) ∧ d.regex = r := by
  obtain ⟨⟨d, y, u⟩, hbranches, h⟩ := Option.bind_eq_some_iff.1 h
  dsimp only at h
  split at h
  · rename_i hend
    cases h
    obtain ⟨rfl, -⟩ := hend
    exact ⟨_, d, y, hbranches, rfl⟩
  · cases h

/-- The readings of a group that is all there is after a start anchor. -/
theorem itemsOf_anchored {e : Text}
    (hread : itemsOf fuel 0 ⟨.off, [], 0⟩ [] none (Validator.anchored e) = some r) :
    ∃ fuel' d y w, branchesOf fuel' 1 ⟨.off, [], 0⟩ [] (e ++ [')']) = some (d, y, ')' :: w) ∧
      itemsOf fuel' 0 { y with flags := .off } [⟨.anchor .textStart, 0⟩]
        (some ⟨d.regex, d.depth + 1⟩) w = some r := by
  cases fuel with
  | zero => cases hread
  | succ fuel =>
    have hhead : Validator.anchored e = '^' :: '(' :: '?' :: ':' :: (e ++ [')']) := rfl
    rw [hhead] at hread
    rcases itemsOf_of_item (u := '^' :: '(' :: '?' :: ':' :: (e ++ [')'])) rfl (by simp [AtEnd])
        (by simp) hread with
      ⟨_, _, _, hoperator, -, -⟩ | ⟨_, _, -, hatom, hread⟩
    · cases hoperator
    cases hatom
    cases fuel with
    | zero => cases hread
    | succ fuel =>
      have hopening : opening ⟨.off, [], 0⟩ ('?' :: ':' :: (e ++ [')'])) =
          some (.group none ⟨.off, [], 0⟩ (e ++ [')'])) := rfl
      rcases itemsOf_of_open rfl hread with
        ⟨_, _, ho, -⟩ | ⟨_, _, _, d, y, w, ho, hbranches, hread⟩
      · cases hopening.symm.trans ho
      · cases hopening.symm.trans ho
        exact ⟨fuel, d, y, w, hbranches, hread⟩

/-- Wrapped in a group after a start anchor, an expression stands for that anchor and then for what
it stands for alone. -/
theorem parse_anchored {e : Text} {r r' : Regex} (h : parse e = some r)
    (h' : parse (Validator.anchored e) = some r') :
    r' = sequence [.anchor .textStart, r] := by
  obtain ⟨fuel, d, y, hd, rfl⟩ := parse_eq_some h
  obtain ⟨fuel', d', y', hd', rfl⟩ := parse_eq_some h'
  cases fuel' with
  | zero => cases hd'
  | succ fuel' =>
    obtain ⟨d₁, y₁, u₁, hitems, hrest⟩ := branchesOf_succ hd'
    obtain ⟨n, d₂, y₂, w, hbranches, hmore⟩ := itemsOf_anchored hitems
    obtain ⟨rfl, -, hw⟩ := (readings_agree fuel).1 .closed hd hbranches
    obtain rfl : w = [] := by
      rcases hw.of_nil with hw | hw
      · exact (List.cons.inj hw).2
      · cases hw
    cases n with
    | zero => cases hmore
    | succ n =>
      cases itemsOf_of_end rfl (.inl rfl) hmore
      rcases hrest with ⟨v, hv, -⟩ | ⟨-, hrest⟩
      · cases hv
      · cases hrest
        rfl

end Regex

end PathRouting
