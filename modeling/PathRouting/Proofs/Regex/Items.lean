import PathRouting.Proofs.Regex.Enclosed

/-! # Items before a closing parenthesis

Character classes, single items and the starts of groups are read alike with and without a closing
parenthesis behind the text.
-/

namespace PathRouting

namespace Regex

variable {t t' rest : Text} {c : Char} {f : Flags}

/-! ## Character classes -/

namespace CharClass

theorem className_concat (negated : Bool) (t : Text) :
    ((Text.cut? ':' (t ++ [')'])).bind fun (name, after) =>
      (Text.dropPrefix? after [']']).bind fun after =>
        (ascii? name).bind fun s => some ((s, negated), after)) =
    ((Text.cut? ':' t).bind fun (name, after) =>
      (Text.dropPrefix? after [']']).bind fun after =>
        (ascii? name).bind fun s => some ((s, negated), after)).map
      fun r => (r.1, r.2 ++ [')']) := by
  rw [Text.cut?_concat (by decide)]
  cases Text.cut? ':' t with
  | none => rfl
  | some r =>
    obtain ⟨name, after⟩ := r
    dsimp only [Option.map_some, Option.bind_some]
    rw [Text.dropPrefix?_concat (by decide)]
    cases Text.dropPrefix? after [']'] with
    | none => rfl
    | some after => cases ascii? name <;> rfl

theorem named?_concat (t : Text) :
    named? (t ++ [')']) = (named? t).map fun r => (r.1, r.2 ++ [')']) := by
  unfold named?
  rw [Text.dropPrefix?_concat (by decide)]
  cases Text.dropPrefix? t [':'] with
  | none => rfl
  | some inner =>
    by_cases hnegated : ∃ u, inner = '^' :: u
    · obtain ⟨u, rfl⟩ := hnegated
      exact className_concat true u
    · push Not at hnegated
      simp only [Option.map_some, Option.bind_eq_bind, Option.bind_some]
      split
      · rename_i hnegated'
        exact absurd hnegated' (Enclosed.closed.not_cons (by decide) hnegated _)
      · exact className_concat false inner

theorem steady_item (f : Flags) : Steady (item f) := by
  intro t i rest hread
  unfold item at hread
  split at hread
  · cases hread
  · refine (Escape.steady_read f).bind (fun e => ?_) _ _ _ hread
    cases e with
    | char c => exact Steady.const (some (Sum.inl c))
    | set s => exact Steady.const (some (Sum.inr s))
    | anchor a => exact Steady.const none
  · rename_i c t hescape
    cases hread
    refine ⟨_, ?_, .closed⟩
    rw [List.cons_append, item]
    exact hescape

theorem steady_rangeEnd (f : Flags) (first : Char ⊕ CharSet) :
    Steady fun t => (item f t).bind fun last =>
      match first, last with
      | .inl a, (.inl b, after) =>
        if a ≤ b then (f.admit? (.range a b)).bind fun s => some (s, after) else none
      | _, _ => none := by
  refine (steady_item f).bind fun last => ?_
  cases first with
  | inl a =>
    cases last with
    | inl b => exact Steady.ite (.given _ fun s => .const (some s)) (.const none)
    | inr s => exact Steady.const none
  | inr s => exact Steady.const none

theorem steady_afterHyphen (f : Flags) (first : Char ⊕ CharSet) (single : CharSet) :
    Steady fun t =>
      match f.skip t with
      | [] => none
      | ']' :: _ => some (single, '-' :: t)
      | '-' :: _ => some (single, '-' :: t)
      | u => (item f u).bind fun last =>
        match first, last with
        | .inl a, (.inl b, after) =>
          if a ≤ b then (f.admit? (.range a b)).bind fun s => some (s, after) else none
        | _, _ => none := by
  intro t s rest hread
  dsimp only at hread ⊢
  have hskip := (Enclosed.closed (t := t)).skip f
  split at hread
  · cases hread
  · rename_i hclose
    rw [hclose] at hskip
    obtain ⟨v, hv, -⟩ := hskip.of_cons
    rw [hv]
    cases hread
    exact ⟨_, rfl, .closed⟩
  · rename_i hhyphen
    rw [hhyphen] at hskip
    obtain ⟨v, hv, -⟩ := hskip.of_cons
    rw [hv]
    cases hread
    exact ⟨_, rfl, .closed⟩
  · rename_i hend hclose hhyphen
    split
    · rename_i hend'
      rw [hend'] at hskip
      exact absurd hskip.eq_nil hend
    · rename_i hclose'
      exact absurd hclose' (hskip.not_cons (by decide) hclose _)
    · rename_i hhyphen'
      exact absurd hhyphen' (hskip.not_cons (by decide) hhyphen _)
    · exact hskip.read (steady_rangeEnd f first) hread

theorem steady_range (f : Flags) (first : Char ⊕ CharSet) (single : CharSet) :
    Steady fun t =>
      match t with
      | [] => none
      | '-' :: u =>
        match f.skip u with
        | [] => none
        | ']' :: _ => some (single, t)
        | '-' :: _ => some (single, t)
        | v => (item f v).bind fun last =>
          match first, last with
          | .inl a, (.inl b, after) =>
            if a ≤ b then (f.admit? (.range a b)).bind fun s => some (s, after) else none
          | _, _ => none
      | u => some (single, u) := by
  intro t s rest hread
  dsimp only at hread ⊢
  split at hread
  · cases hread
  · exact steady_afterHyphen f first single _ s rest hread
  · rename_i hend hhyphen
    cases hread
    split
    · rename_i hend'
      exact absurd (List.append_eq_nil_iff.1 hend').1 hend
    · rename_i hhyphen'
      exact absurd hhyphen' (Enclosed.closed.not_cons (by decide) hhyphen _)
    · exact ⟨_, rfl, .closed⟩

theorem steady_itemOrRange (f : Flags) : Steady (itemOrRange f) := by
  refine (steady_item f).bind fun first => ?_
  exact .given _ fun single => (steady_range f first single).skip f

theorem hyphens_eq (f : Flags) (d : Draft) (t : Text) : hyphens f d t =
    match f.next? t with
    | some ('-', rest) => hyphens f (d.add ⟨.one '-', 0⟩) rest
    | _ => (d, t) := by
  rw [hyphens]
  split <;> simp [*]

theorem enclosed_hyphens (h : Enclosed t t') (d : Draft) :
    (hyphens f d t').1 = (hyphens f d t).1 ∧
      Enclosed (hyphens f d t).2 (hyphens f d t').2 := by
  fun_induction hyphens f d t generalizing t' with
  | case1 d t rest hnext ih =>
    obtain ⟨rest', hnext', hrest⟩ := h.read (steady_next? f) hnext
    rw [hyphens_eq f d t', hnext']
    exact ih hrest
  | case2 d t hnext =>
    rw [hyphens_eq f d t']
    split
    · rename_i hnext'
      rw [Flags.next?_eq_some] at hnext'
      refine absurd hnext' ((h.skip f).not_cons (by decide) (fun u hu => ?_) _)
      exact hnext u (Flags.next?_eq_some.2 hu)
    · exact ⟨rfl, h⟩

def opened (negated : Bool) (d : Draft) (t : Text) : Bool × Draft × Text :=
  match d.items, t with
  | [], ']' :: t => (negated, d.add ⟨.one ']', 0⟩, t)
  | _, t => (negated, d, t)

theorem opening_of_caret {u : Text} (h : f.skip t = '^' :: u) :
    opening f t = opened true (hyphens f .start u).1 (f.skip (hyphens f .start u).2) := by
  unfold opening
  rw [h]
  rfl

theorem opening_of_ne (h : ∀ u, f.skip t ≠ '^' :: u) : opening f t =
    opened false (hyphens f .start (f.skip t)).1 (f.skip (hyphens f .start (f.skip t)).2) := by
  unfold opening
  split
  rename_i hnegated
  split at hnegated
  · rename_i heq
    exact absurd heq (h _)
  · cases hnegated
    rfl

theorem enclosed_opened (h : Enclosed t t') (negated : Bool) (d : Draft) :
    ∃ e u u', opened negated d t = (negated, e, u) ∧ opened negated d t' = (negated, e, u') ∧
      Enclosed u u' := by
  have hother (t : Text) (ht : ¬(d.items = [] ∧ ∃ u, t = ']' :: u)) :
      opened negated d t = (negated, d, t) := by
    unfold opened
    split
    · rename_i hitems
      exact absurd ⟨hitems, _, rfl⟩ ht
    · rfl
  by_cases hclose : d.items = [] ∧ ∃ u, t = ']' :: u
  · obtain ⟨hitems, u, rfl⟩ := hclose
    obtain ⟨u', rfl, hu⟩ := h.of_cons
    refine ⟨d.add ⟨.one ']', 0⟩, u, u', ?_, ?_, hu⟩ <;> simp only [opened, hitems]
  · refine ⟨d, t, t', hother t hclose, hother t' ?_, h⟩
    rintro ⟨hitems, u', hu'⟩
    refine h.not_cons (by decide) (fun u hu => ?_) u' hu'
    exact hclose ⟨hitems, u, hu⟩

theorem enclosed_opening (h : Enclosed t t') (f : Flags) :
    ∃ negated d u u', opening f t = (negated, d, u) ∧ opening f t' = (negated, d, u') ∧
      Enclosed u u' := by
  have hskip := h.skip f
  have hbracket (negated : Bool) {t t' : Text} (h : Enclosed t t') :
      ∃ d u u', opened negated (hyphens f .start t).1 (f.skip (hyphens f .start t).2) =
          (negated, d, u) ∧
        opened negated (hyphens f .start t').1 (f.skip (hyphens f .start t').2) =
          (negated, d, u') ∧ Enclosed u u' := by
    obtain ⟨hdraft, hrest⟩ := enclosed_hyphens (f := f) h .start
    rw [hdraft]
    exact enclosed_opened (hrest.skip f) negated (hyphens f .start t).1
  by_cases hcaret : ∃ u, f.skip t = '^' :: u
  · obtain ⟨u, hu⟩ := hcaret
    rw [hu] at hskip
    obtain ⟨u', hu', hrest⟩ := hskip.of_cons
    rw [opening_of_caret hu, opening_of_caret hu']
    exact ⟨true, hbracket true hrest⟩
  · push Not at hcaret
    rw [opening_of_ne hcaret, opening_of_ne (hskip.not_cons (by decide) hcaret)]
    exact ⟨false, hbracket false hskip⟩

theorem named?_enclosed_eq_none (h : Enclosed t t') (hread : named? t = none) :
    named? t' = none := by
  cases h with
  | closed => rw [named?_concat, hread, Option.map_none]
  | swallowed => exact hread

theorem steady_named? : Steady named? := by
  intro t r rest hread
  rw [named?_concat, hread]
  exact ⟨_, rfl, .closed⟩

/-- Items are read with more fuel too. -/
theorem enclosed_items {fuel fuel' around : Nat} {d : Draft} {n : Nested} (hfuel : fuel ≤ fuel')
    (h : Enclosed t t') (hread : items f fuel around d t = some (n, rest)) :
    ∃ rest', items f fuel' around d t' = some (n, rest') ∧ Enclosed rest rest' := by
  induction fuel generalizing fuel' around d n t t' rest with
  | zero => cases hread
  | succ fuel ih =>
    obtain ⟨fuel', rfl⟩ : ∃ k, fuel' = k + 1 := ⟨fuel' - 1, by omega⟩
    have hfuel := Nat.le_of_succ_le_succ hfuel
    have hskip := h.skip f
    unfold items at hread ⊢
    generalize f.skip t = u at hread hskip
    generalize f.skip t' = u' at hskip
    split at hread
    · cases hread
    · obtain ⟨v, rfl, hv⟩ := hskip.of_cons
      cases hread
      exact ⟨v, rfl, hv⟩
    · obtain ⟨v, rfl, hv⟩ := hskip.of_cons
      split at hread
      · rename_i hnamed
        obtain ⟨s, hs, hread⟩ := Option.bind_eq_some_iff.1 hread
        obtain ⟨w, hnamed', hw⟩ := hv.read steady_named? hnamed
        obtain ⟨rest', hread', hrest⟩ := ih hfuel hw hread
        refine ⟨rest', ?_, hrest⟩
        simp only [hnamed']
        exact Option.bind_eq_some_iff.2 ⟨s, hs, hread'⟩
      · rename_i hnamed
        simp only [named?_enclosed_eq_none hv hnamed]
        obtain ⟨negated, inner, w, w', hopening, hopening', hw⟩ := enclosed_opening hv f
        rw [hopening] at hread
        rw [hopening']
        dsimp only at hread ⊢
        split at hread
        · cases hread
        rename_i hdeep
        rw [if_neg hdeep]
        obtain ⟨⟨m, x⟩, hm, hread⟩ := Option.bind_eq_some_iff.1 hread
        obtain ⟨s, hs, hread⟩ := Option.bind_eq_some_iff.1 hread
        obtain ⟨x', hm', hx⟩ := ih hfuel hw hm
        obtain ⟨rest', hread', hrest⟩ := ih hfuel hx hread
        exact ⟨rest', Option.bind_eq_some_iff.2 ⟨(m, x'), hm',
          Option.bind_eq_some_iff.2 ⟨s, hs, hread'⟩⟩, hrest⟩
    case h_4 | h_5 | h_6 =>
      obtain ⟨v, rfl, hv⟩ := hskip.of_cons
      obtain ⟨w, rfl, hw⟩ := hv.of_cons
      exact ih hfuel hw hread
    · rename_i hend hclose hopen hinter hdiff hsymm
      split
      · exact absurd hskip.eq_nil hend
      · exact absurd rfl (hskip.not_cons (by decide) hclose _)
      · exact absurd rfl (hskip.not_cons (by decide) hopen _)
      · exact absurd rfl (hskip.not_append (p := ['&', '&']) (by decide) hinter _)
      · exact absurd rfl (hskip.not_append (p := ['-', '-']) (by decide) hdiff _)
      · exact absurd rfl (hskip.not_append (p := ['~', '~']) (by decide) hsymm _)
      · obtain ⟨⟨s, v⟩, hs, hread⟩ := Option.bind_eq_some_iff.1 hread
        obtain ⟨v', hs', hv⟩ := hskip.read (steady_itemOrRange f) hs
        obtain ⟨rest', hread', hrest⟩ := ih hfuel hv hread
        exact ⟨rest', Option.bind_eq_some_iff.2 ⟨(s, v'), hs', hread'⟩, hrest⟩

theorem steady_read (f : Flags) : Steady (read f) := by
  refine Steady.of_enclosed fun t t' n rest ht hread => ?_
  obtain ⟨negated, d, u, u', hopening, hopening', hu⟩ := enclosed_opening ht f
  unfold read at hread ⊢
  rw [hopening] at hread
  rw [hopening']
  obtain ⟨⟨m, v⟩, hm, hread⟩ := Option.bind_eq_some_iff.1 hread
  obtain ⟨s, hs, hrest⟩ := Option.bind_eq_some_iff.1 hread
  cases hrest
  obtain ⟨rest', hm', hrest⟩ := enclosed_items (Nat.succ_le_succ hu.length_le) hu hm
  exact ⟨rest', Option.bind_eq_some_iff.2 ⟨(m, rest'), hm',
    Option.bind_eq_some_iff.2 ⟨s, hs, rfl⟩⟩, hrest⟩

end CharClass

/-! ## Items and the starts of groups -/

theorem steady_atom (f : Flags) : Steady (atom f) := by
  intro t d rest hread
  unfold atom at hread
  split at hread
  · cases hread
  · obtain ⟨s, hs, hrest⟩ := Option.map_eq_some_iff.1 hread
    cases hrest
    exact ⟨_, Option.map_eq_some_iff.2 ⟨s, hs, rfl⟩, .closed⟩
  · cases hread
    exact ⟨_, rfl, .closed⟩
  · cases hread
    exact ⟨_, rfl, .closed⟩
  · obtain ⟨⟨n, u⟩, hn, hrest⟩ := Option.map_eq_some_iff.1 hread
    cases hrest
    obtain ⟨rest', hn', hrest⟩ := CharClass.steady_read f _ _ _ hn
    exact ⟨rest', Option.map_eq_some_iff.2 ⟨(n, rest'), hn', rfl⟩, hrest⟩
  · refine (Escape.steady_read f).bind (fun e => ?_) _ _ _ hread
    cases e with
    | char c => exact Steady.const (some (Draft.mk (f.literal c) 0))
    | set s => exact Steady.const (some (Draft.mk (ofSet s) 0))
    | anchor a => exact Steady.const (some (Draft.mk (.anchor a) 0))
  · rename_i c t hdot hstart hend hclass hescape
    cases hread
    refine ⟨_, ?_, .closed⟩
    rw [List.cons_append, atom] <;> assumption

inductive Opening.Enclosed : Opening → Opening → Prop
  | group (number? : Option Nat) (inner : Context) {t t' : Text} (h : Regex.Enclosed t t') :
    Enclosed (.group number? inner t) (.group number? inner t')
  | flags (f : Flags) {t t' : Text} (h : Regex.Enclosed t t') :
    Enclosed (.flags f t) (.flags f t')

theorem enclosed_groupName {x : Context} {o : Opening} (h : Enclosed t t')
    (hread : groupName x t = some o) : ∃ o', groupName x t' = some o' ∧ o.Enclosed o' := by
  have hcut : Steady (Text.cut? '>') := by
    intro t name after hread
    exact ⟨_, by rw [Text.cut?_concat (by decide), hread]; rfl, .closed⟩
  obtain ⟨⟨name, after⟩, hname, hread⟩ := Option.bind_eq_some_iff.1 hread
  obtain ⟨after', hname', hafter⟩ := h.read hcut hname
  dsimp only at hread
  split at hread
  · rename_i hnew
    cases hread
    refine ⟨_, Option.bind_eq_some_iff.2 ⟨(name, after'), hname', ?_⟩, .group _ _ hafter⟩
    exact if_pos hnew
  · cases hread

theorem enclosed_flagged {x : Context} {o : Opening} (h : Enclosed t t')
    (hread : ((x.flags.read [] true t).bind fun (flags, used, u) =>
      match u with
      | ':' :: u => some (Opening.group none { x with flags } u)
      | ')' :: u => if used = [] then none else some (Opening.flags flags u)
      | _ => none) = some o) :
    ∃ o', ((x.flags.read [] true t').bind fun (flags, used, u) =>
      match u with
      | ':' :: u => some (Opening.group none { x with flags } u)
      | ')' :: u => if used = [] then none else some (Opening.flags flags u)
      | _ => none) = some o' ∧ o.Enclosed o' := by
  obtain ⟨⟨flags, used, u⟩, hflags, hread⟩ := Option.bind_eq_some_iff.1 hread
  obtain ⟨u', hflags', hu⟩ := Flags.read_enclosed h hflags
  rw [hflags']
  dsimp only [Option.bind_some] at hread ⊢
  split at hread
  · obtain ⟨v, rfl, hv⟩ := hu.of_cons
    cases hread
    exact ⟨_, rfl, .group _ _ hv⟩
  · obtain ⟨v, rfl, hv⟩ := hu.of_cons
    split at hread
    · cases hread
    · rename_i hused
      cases hread
      exact ⟨_, if_neg hused, .flags _ hv⟩
  · cases hread

theorem enclosed_opening {x : Context} {o : Opening} (h : Enclosed t t')
    (hread : opening x t = some o) : ∃ o', opening x t' = some o' ∧ o.Enclosed o' := by
  have hskip := h.skip x.flags
  unfold opening at hread ⊢
  generalize x.flags.skip t = u at hread hskip
  generalize x.flags.skip t' = u' at hskip
  split at hread
  case h_1 | h_2 | h_3 | h_4 => cases hread
  · obtain ⟨v, rfl, hv⟩ := hskip.of_cons
    obtain ⟨w, rfl, hw⟩ := hv.of_cons
    obtain ⟨y, rfl, hy⟩ := hw.of_cons
    exact enclosed_groupName hy hread
  · rename_i hbehind hnotBehind
    obtain ⟨v, rfl, hv⟩ := hskip.of_cons
    obtain ⟨w, rfl, hw⟩ := hv.of_cons
    have hbehind' := hw.not_cons (by decide) hbehind
    have hnotBehind' := hw.not_cons (by decide) hnotBehind
    obtain ⟨o', hgroup, ho⟩ := enclosed_groupName hw hread
    refine ⟨o', ?_, ho⟩
    split <;> grind
  · -- The parenthesis behind the text makes it none of the starts that are tried before.
    rename_i hahead hnotAhead _ _ hnamed hname
    obtain ⟨v, rfl, hv⟩ := hskip.of_cons
    have hahead' := hv.not_cons (by decide) hahead
    have hnotAhead' := hv.not_cons (by decide) hnotAhead
    have hnamed' : ∀ u', v ≠ 'P' :: '<' :: u' :=
      hv.not_append (p := ['P', '<']) (by decide) hnamed
    have hname' := hv.not_cons (by decide) hname
    obtain ⟨o', hflags, ho⟩ := enclosed_flagged hv hread
    refine ⟨o', ?_, ho⟩
    split
    case h_7 heq =>
      cases heq
      exact hflags
    all_goals grind
  · rename_i hmark
    have hmark' := hskip.not_cons (by decide) hmark
    cases hread
    refine ⟨numbered x u', ?_, .group _ _ hskip⟩
    split <;> grind

end Regex

end PathRouting
