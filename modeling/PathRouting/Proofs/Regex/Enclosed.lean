import Mathlib.Data.List.Basic
import PathRouting.Regex.Parse
import PathRouting.Proofs.Text.Cut

/-! # Reading before a closing parenthesis

What is read from the front of a text is read as well when a closing parenthesis stands behind the
text.  Only a comment at the very end makes a difference: it runs over the parenthesis.
-/

namespace PathRouting

namespace Regex

/-- What is left of a text, and what is left when a parenthesis stands behind it, which a comment
may have run over. -/
inductive Enclosed (t : Text) : Text → Prop
  | closed : Enclosed t (t ++ [')'])
  | swallowed : Enclosed t t

/-- The reader takes the same from a text before a closing parenthesis. -/
def Steady {α : Type} (read : Text → Option (α × Text)) : Prop :=
  ∀ t a rest, read t = some (a, rest) →
    ∃ rest', read (t ++ [')']) = some (a, rest') ∧ Enclosed rest rest'

variable {α β : Type} {t t' rest : Text} {c : Char} {f : Flags}

namespace Enclosed

theorem of_nil (h : Enclosed [] t') : t' = [')'] ∨ t' = [] := by
  cases h with
  | closed => exact .inl rfl
  | swallowed => exact .inr rfl

theorem of_cons (h : Enclosed (c :: t) t') : ∃ u, t' = c :: u ∧ Enclosed t u := by
  cases h with
  | closed => exact ⟨t ++ [')'], rfl, .closed⟩
  | swallowed => exact ⟨t, rfl, .swallowed⟩

theorem eq_nil (h : Enclosed t []) : t = [] := by
  cases t with
  | nil => rfl
  | cons c t =>
    obtain ⟨u, hu, -⟩ := h.of_cons
    cases hu

theorem cons (h : Enclosed t t') : Enclosed (c :: t) (c :: t') := by
  cases h with
  | closed => exact .closed
  | swallowed => exact .swallowed

/-- Whether a text starts with something else than the parenthesis can be told without it. -/
theorem not_append {p : Text} (h : Enclosed t t') (hp : ')' ∉ p) (ht : ∀ u, t ≠ p ++ u)
    (u' : Text) : t' ≠ p ++ u' := by
  induction p generalizing t t' with
  | nil => exact absurd rfl (ht t)
  | cons c p ih =>
    rw [List.mem_cons, not_or] at hp
    rintro rfl
    cases t with
    | nil =>
      rcases h.of_nil with h | h
      · exact hp.1 (List.cons.inj h).1.symm
      · cases h
    | cons d t =>
      obtain ⟨v, hv, hrest⟩ := h.of_cons
      cases hv
      refine ih hrest hp.2 (fun u hu => ?_) rfl
      exact ht u (hu ▸ rfl)

theorem not_cons (h : Enclosed t t') (hc : c ≠ ')') (ht : ∀ u, t ≠ c :: u) (u' : Text) :
    t' ≠ c :: u' :=
  h.not_append (p := [c]) (by simpa using hc.symm) ht u'

theorem length_le (h : Enclosed t t') : t.length ≤ t'.length := by
  cases h with
  | closed => simp
  | swallowed => exact Nat.le_refl _

theorem read (h : Enclosed t t') {read : Text → Option (α × Text)} (hread : Steady read) {a : α}
    (hrest : read t = some (a, rest)) :
    ∃ rest', read t' = some (a, rest') ∧ Enclosed rest rest' := by
  cases h with
  | closed => exact hread t a rest hrest
  | swallowed => exact ⟨rest, hrest, .swallowed⟩

end Enclosed

namespace Steady

theorem of_enclosed {read : Text → Option (α × Text)}
    (h : ∀ t t' a rest, Enclosed t t' → read t = some (a, rest) →
      ∃ rest', read t' = some (a, rest') ∧ Enclosed rest rest') : Steady read :=
  fun t a rest => h t _ a rest .closed

theorem const (o : Option α) : Steady fun t => o.map (·, t) := by
  intro t a rest hread
  obtain ⟨b, rfl, hb⟩ := Option.map_eq_some_iff.1 hread
  cases hb
  exact ⟨_, rfl, .closed⟩

theorem bind {read : Text → Option (α × Text)} {next : α × Text → Option (β × Text)}
    (hread : Steady read) (hnext : ∀ a, Steady fun t => next (a, t)) :
    Steady fun t => (read t).bind next := by
  intro t b rest h
  obtain ⟨⟨a, u⟩, ha, hb⟩ := Option.bind_eq_some_iff.1 h
  obtain ⟨u', ha', hu⟩ := hread t a u ha
  obtain ⟨rest', hb', hrest⟩ := hu.read (hnext a) hb
  exact ⟨rest', Option.bind_eq_some_iff.2 ⟨(a, u'), ha', hb'⟩, hrest⟩

/-- A value that takes no text comes before the reader. -/
theorem given (o : Option α) {read : α → Text → Option (β × Text)} (hread : ∀ a, Steady (read a)) :
    Steady fun t => o.bind fun a => read a t := by
  cases o with
  | none =>
    intro t b rest h
    cases h
  | some a => exact hread a

theorem ite {p : Prop} [Decidable p] {read read' : Text → Option (α × Text)}
    (hread : Steady read) (hread' : Steady read') :
    Steady fun t => if p then read t else read' t := by
  split
  · exact hread
  · exact hread'

end Steady

/-! ## White space, counts and flags -/

theorem enclosed_skipSpaced (inComment : Bool) (t : Text) :
    Enclosed (Flags.skipSpaced inComment t) (Flags.skipSpaced inComment (t ++ [')'])) := by
  induction t generalizing inComment with
  | nil =>
    cases inComment with
    | true => exact .swallowed
    | false => exact .closed
  | cons c t ih =>
    rw [List.cons_append, Flags.skipSpaced, Flags.skipSpaced]
    split
    · exact ih _
    split
    · exact ih _
    split
    · exact ih _
    · exact .closed

theorem Enclosed.skip (h : Enclosed t t') (f : Flags) : Enclosed (f.skip t) (f.skip t') := by
  cases h with
  | closed =>
    unfold Flags.skip
    split
    · exact enclosed_skipSpaced false t
    · exact .closed
  | swallowed => exact .swallowed

theorem Steady.skip {read : Text → Option (α × Text)} (hread : Steady read) (f : Flags) :
    Steady fun t => read (f.skip t) :=
  fun _ _ _ h => (Enclosed.closed.skip f).read hread h

theorem Enclosed.dropWhile (h : Enclosed t t') (p : Char → Bool) :
    Enclosed (t.dropWhile p) (t'.dropWhile p) := by
  cases h with
  | swallowed => exact .swallowed
  | closed =>
    induction t with
    | nil =>
      rw [List.nil_append, List.dropWhile_cons]
      split
      · exact .swallowed
      · exact .closed
    | cons c t ih =>
      rw [List.cons_append, List.dropWhile_cons, List.dropWhile_cons]
      split
      · exact ih
      · exact .closed

theorem Enclosed.takeWhile_eq (h : Enclosed t t') {p : Char → Bool} (hp : p ')' = false) :
    t'.takeWhile p = t.takeWhile p := by
  cases h with
  | swallowed => rfl
  | closed =>
    induction t with
    | nil => simp [hp]
    | cons c t ih => rw [List.cons_append, List.takeWhile_cons, List.takeWhile_cons, ih]

theorem Flags.next?_eq_some : f.next? t = some (c, rest) ↔ f.skip t = c :: rest := by
  unfold Flags.next?
  cases f.skip t <;> simp

theorem Flags.next?_eq_none : f.next? t = none ↔ f.skip t = [] := by
  unfold Flags.next?
  cases f.skip t <;> simp

theorem steady_next? (f : Flags) : Steady f.next? := by
  intro t c rest hread
  have hskip := (Enclosed.closed (t := t)).skip f
  rw [Flags.next?_eq_some.1 hread] at hskip
  obtain ⟨rest', hrest', hrest⟩ := hskip.of_cons
  exact ⟨rest', Flags.next?_eq_some.2 hrest', hrest⟩

theorem countDigits_eq (f : Flags) (ds t : Text) : countDigits f ds t =
    match f.next? t with
    | some (c, rest) => if c.isDigit then countDigits f (c :: ds) rest else (ds.reverse, f.skip t)
    | none => (ds.reverse, []) := by
  rw [countDigits]
  split <;> simp [*]

theorem enclosed_countDigits (h : Enclosed t t') (ds : Text) :
    (countDigits f ds t').1 = (countDigits f ds t).1 ∧
      Enclosed (countDigits f ds t).2 (countDigits f ds t').2 := by
  fun_induction countDigits f ds t generalizing t' with
  | case1 ds t c rest hnext hdigit ih =>
    obtain ⟨rest', hnext', hrest⟩ := h.read (steady_next? f) hnext
    rw [countDigits_eq f ds t', hnext']
    dsimp only
    rw [if_pos hdigit]
    exact ih hrest
  | case2 ds t c rest hnext hdigit =>
    obtain ⟨rest', hnext', hrest⟩ := h.read (steady_next? f) hnext
    rw [countDigits_eq f ds t', hnext']
    dsimp only
    rw [if_neg hdigit]
    exact ⟨rfl, h.skip f⟩
  | case3 ds t hnext =>
    -- The digits may go up to the end, and the parenthesis is none.
    have hskip := h.skip f
    rw [Flags.next?_eq_none.1 hnext] at hskip
    rw [countDigits_eq]
    rcases hskip.of_nil with hskip' | hskip'
    · rw [Flags.next?_eq_some.2 hskip']
      dsimp only
      rw [if_neg (by decide), hskip']
      exact ⟨rfl, .closed⟩
    · rw [Flags.next?_eq_none.2 hskip']
      exact ⟨rfl, .swallowed⟩

theorem count?_eq (f : Flags) (t : Text) : count? f t =
    let read := countDigits f [] ((f.skip t).dropWhile Text.isBlank)
    if read.1 = [] ∨ Text.decimalValue read.1 > largestCount then none
    else some (Text.decimalValue read.1, f.skip (read.2.dropWhile Text.isBlank)) := rfl

theorem steady_count? (f : Flags) : Steady (count? f) := by
  intro t n rest hread
  obtain ⟨hdigits, hafter⟩ :=
    enclosed_countDigits (f := f) (((Enclosed.closed (t := t)).skip f).dropWhile Text.isBlank) []
  rw [count?_eq] at hread ⊢
  dsimp only at hread ⊢
  rw [hdigits]
  split at hread
  · cases hread
  · rename_i hcount
    cases hread
    rw [if_neg hcount]
    exact ⟨_, rfl, (hafter.dropWhile Text.isBlank).skip f⟩

theorem steady_most? (f : Flags) (least : Nat) :
    Steady fun t => match t with
      | '\x7d' :: t => some ((least, none), t)
      | t => (count? f t).bind fun (most, t) =>
        match t with
        | '\x7d' :: t => if least ≤ most then some ((least, some most), t) else none
        | _ => none := by
  intro t bounds rest hread
  dsimp only at hread ⊢
  split at hread
  · exact Steady.const (some (least, none)) _ _ _ hread
  · rename_i hclose
    split
    · rename_i hclose'
      exact absurd hclose' (Enclosed.closed.not_cons (by decide) hclose _)
    · refine Steady.bind (steady_count? f) (fun most => ?_) _ _ _ hread
      intro u bounds rest hread
      dsimp only at hread ⊢
      split at hread
      · exact Steady.ite (.const (some (least, some most))) (.const none) _ _ _ hread
      · cases hread

theorem steady_bounds? (f : Flags) : Steady (bounds? f) := by
  refine (steady_count? f).bind fun least => ?_
  intro t bounds rest hread
  dsimp only at hread
  split at hread
  · exact Steady.const (some (least, some least)) _ _ _ hread
  · exact (steady_most? f least).skip f _ _ _ hread
  · cases hread

theorem operator?_eq_none (h : Enclosed t t') (hread : operator? f t = some none) :
    operator? f t' = some none := by
  unfold operator? at hread ⊢
  split at hread
  · cases hread
  · cases hread
  · cases hread
  · obtain ⟨_, _, hread⟩ := Option.map_eq_some_iff.1 hread
    cases hread
  · rename_i hstar hplus hmark hbrace
    split
    · exact absurd rfl (h.not_cons (by decide) hstar _)
    · exact absurd rfl (h.not_cons (by decide) hplus _)
    · exact absurd rfl (h.not_cons (by decide) hmark _)
    · exact absurd rfl (h.not_cons (by decide) hbrace _)
    · rfl

theorem operator?_eq_some {bounds : Nat × Option Nat} (h : Enclosed t t')
    (hread : operator? f t = some (some (bounds, rest))) :
    ∃ rest', operator? f t' = some (some (bounds, rest')) ∧ Enclosed rest rest' := by
  unfold operator? at hread
  split at hread
  case h_1 | h_2 | h_3 =>
    obtain ⟨u, rfl, hu⟩ := h.of_cons
    cases hread
    exact ⟨u, rfl, hu⟩
  · obtain ⟨u, rfl, hu⟩ := h.of_cons
    obtain ⟨⟨_, v⟩, hbounds, hrest⟩ := Option.map_eq_some_iff.1 hread
    cases hrest
    obtain ⟨v', hbounds', hv⟩ := hu.read (steady_bounds? f) hbounds
    exact ⟨f.skip v', Option.map_eq_some_iff.2 ⟨(bounds, v'), hbounds', rfl⟩, hv.skip f⟩
  · cases hread

theorem Flags.read_enclosed {used used' : List Char} {value : Bool} {g : Flags}
    (h : Enclosed t t') (hread : f.read used value t = some (g, used', rest)) :
    ∃ rest', f.read used value t' = some (g, used', rest') ∧ Enclosed rest rest' := by
  induction t generalizing t' f used value with
  | nil => cases hread
  | cons c t ih =>
    obtain ⟨u, rfl, hu⟩ := h.of_cons
    rw [Flags.read] at hread ⊢
    split at hread
    · rename_i hend
      rw [if_pos hend]
      split at hread
      · cases hread
      · rename_i hhyphen
        cases hread
        rw [if_neg hhyphen]
        exact ⟨_, rfl, h⟩
    rename_i hend
    rw [if_neg hend]
    split at hread
    · cases hread
    rename_i hused
    rw [if_neg hused]
    split at hread
    · rename_i hhyphen
      rw [if_pos hhyphen]
      exact ih hu hread
    rename_i hhyphen
    rw [if_neg hhyphen]
    split at hread
    · exact ih hu hread
    · cases hread

/-! ## Escapes -/

namespace Escape

theorem steady_digits (f : Flags) (n value : Nat) : Steady (digits f n value) := by
  induction n generalizing value with
  | zero => exact .const (some value)
  | succ n ih =>
    refine (steady_next? f).bind fun c => ?_
    exact .given (Text.hexDigit? c) fun d => ih (16 * value + d)

theorem braced_eq (f : Flags) (value : Option Nat) (t : Text) : braced f value t =
    (f.next? t).bind fun (c, rest) =>
      if c = '\x7d' then value.map (·, rest)
      else (Text.hexDigit? c).bind fun d => braced f (some (16 * value.getD 0 + d)) rest := by
  rw [braced]
  split
  · rename_i hnext
    rw [hnext]
    rfl
  · rename_i hnext
    rw [hnext]
    dsimp only [Option.bind_some]
    split
    · rfl
    · split <;> simp [*]

theorem enclosed_braced {value : Option Nat} {n : Nat} (h : Enclosed t t')
    (hread : braced f value t = some (n, rest)) :
    ∃ rest', braced f value t' = some (n, rest') ∧ Enclosed rest rest' := by
  fun_induction braced f value t generalizing t' with
  | case1 => cases hread
  | case2 value t u hnext =>
    obtain ⟨u', hnext', hu⟩ := h.read (steady_next? f) hnext
    rw [braced_eq, hnext']
    exact hu.read (.const value) hread
  | case3 => cases hread
  | case4 value t c u hnext hclose d hdigit ih =>
    obtain ⟨u', hnext', hu⟩ := h.read (steady_next? f) hnext
    obtain ⟨rest', hread', hrest⟩ := ih hu hread
    refine ⟨rest', ?_, hrest⟩
    rw [braced_eq, hnext']
    dsimp only [Option.bind_some]
    rw [if_neg hclose, hdigit]
    exact hread'

theorem steady_char (value : Nat) :
    Steady fun t => (Text.char? value).bind fun c => some (char c, t) :=
  .given (Text.char? value) fun c => .const (some (char c))

theorem steady_codeDigits (f : Flags) (count : Nat) :
    Steady fun t => match t with
      | '\x7b' :: t => (braced f none t).bind fun (value, t) =>
        (Text.char? value).bind fun c => some (char c, t)
      | t => (digits f count 0 t).bind fun (value, t) =>
        if f.ascii && count = 2 && 0x80 ≤ value then none
        else (Text.char? value).bind fun c => some (char c, t) := by
  intro t e rest hread
  dsimp only at hread ⊢
  split at hread
  · exact Steady.bind (fun _ _ _ h => enclosed_braced .closed h) steady_char _ _ _ hread
  · rename_i hbrace
    split
    · rename_i hbrace'
      exact absurd hbrace' (Enclosed.closed.not_cons (by decide) hbrace _)
    · refine Steady.bind (steady_digits f count 0) (fun value => ?_) _ _ _ hread
      exact Steady.ite (p := f.ascii && count = 2 && 0x80 ≤ value) (.const none) (steady_char value)

theorem steady_code (f : Flags) (count : Nat) : Steady (code f count) :=
  (steady_codeDigits f count).skip f

def isNameChar (c : Char) : Bool := c.isAlpha || c == '-'

theorem edge_brace (f : Flags) (t : Text) : edge f ('\x7b' :: t) =
    match f.skip t with
    | [] => none
    | name =>
      if name.head?.any isNameChar then
        match name.dropWhile isNameChar with
        | '\x7d' :: after => (boundary? (name.takeWhile isNameChar)).map fun b =>
          (.anchor (.boundary b f.ascii), after)
        | _ => none
      else some (.anchor (.boundary .edge f.ascii), '\x7b' :: t) := rfl

theorem steady_edge (f : Flags) : Steady (edge f) := by
  intro t e rest hread
  by_cases hbrace : ∃ u, t = '\x7b' :: u
  · obtain ⟨u, rfl⟩ := hbrace
    have hskip := (Enclosed.closed (t := u)).skip f
    have hdrop := hskip.dropWhile isNameChar
    have htake := hskip.takeWhile_eq (p := isNameChar) (by decide)
    rw [List.cons_append, edge_brace]
    rw [edge_brace] at hread
    generalize f.skip (u ++ [')']) = name' at hskip hdrop htake
    split at hread
    · cases hread
    rename_i hname
    generalize f.skip u = name at hread hskip hname hdrop htake
    obtain ⟨c, u, rfl⟩ := List.exists_cons_of_ne_nil hname
    obtain ⟨u', rfl, hu⟩ := hskip.of_cons
    dsimp only at hread ⊢
    rw [htake]
    split at hread
    · rename_i hletter
      rw [if_pos (show (c :: u').head?.any isNameChar from hletter)]
      split at hread
      · rename_i hclose
        rw [hclose] at hdrop
        obtain ⟨v, hv, hafter⟩ := hdrop.of_cons
        rw [hv]
        obtain ⟨b, hb, hrest⟩ := Option.map_eq_some_iff.1 hread
        cases hrest
        exact ⟨v, Option.map_eq_some_iff.2 ⟨b, hb, rfl⟩, hafter⟩
      · cases hread
    · rename_i hletter
      rw [if_neg (show ¬(c :: u').head?.any isNameChar from hletter)]
      cases hread
      exact ⟨_, rfl, .closed⟩
  · push Not at hbrace
    unfold edge at hread ⊢
    split at hread
    · exact absurd rfl (hbrace _)
    split
    · rename_i hbrace'
      exact absurd hbrace' (Enclosed.closed.not_cons (by decide) hbrace _)
    · cases hread
      exact ⟨_, rfl, .closed⟩

theorem inBraces_eq (f : Flags) (t : Text) : inBraces f t =
    (f.next? t).bind fun (c, rest) =>
      if c = '\x7d' then some ([], rest)
      else (inBraces f rest).map fun (query, after) => (c :: query, after) := by
  rw [inBraces]
  split <;> simp [*]

theorem steady_inBraces (f : Flags) : Steady (inBraces f) := by
  refine Steady.of_enclosed fun t t' name rest h hread => ?_
  fun_induction inBraces f t generalizing t' name rest with
  | case1 => cases hread
  | case2 t u hnext =>
    obtain ⟨u', hnext', hu⟩ := h.read (steady_next? f) hnext
    rw [inBraces_eq, hnext']
    exact hu.read (.const (some [])) hread
  | case3 t c u hnext hclose ih =>
    obtain ⟨u', hnext', hu⟩ := h.read (steady_next? f) hnext
    obtain ⟨⟨name, after⟩, hname, hcons⟩ := Option.map_eq_some_iff.1 hread
    cases hcons
    obtain ⟨rest', hname', hrest⟩ := ih u' name rest hu hname
    refine ⟨rest', ?_, hrest⟩
    rw [inBraces_eq, hnext']
    dsimp only [Option.bind_some]
    rw [if_neg hclose, hname', Option.map_some]

theorem steady_query (f : Flags) : Steady (query f) :=
  (steady_next? f).bind fun c =>
    .ite (steady_inBraces f) (.ite (.const none) (.const (some [c])))

theorem steady_property (f : Flags) (negated : Bool) : Steady (property f negated) :=
  (steady_query f).bind fun name =>
    .given (property? f negated name) fun s => .const (some (set s))

theorem steady_read (f : Flags) : Steady (read f) := by
  intro t e rest hread
  cases t with
  | nil => cases hread
  | cons c t =>
    rw [List.cons_append]
    unfold read at hread ⊢
    dsimp only at hread ⊢
    have hchar (d : Char) := Steady.const (some (char d))
    have hset (letter : Char) (negated : Bool) := Steady.const ((f.class? letter negated).map set)
    have hanchor (a : Anchor) := Steady.const (some (anchor a))
    simp only [Option.map_map, Function.comp_def] at hset
    split at hread
    · rename_i hplain
      rw [if_pos hplain]
      exact hchar c t e rest hread
    rename_i hplain
    rw [if_neg hplain]
    split at hread
    case h_15 => exact steady_edge f _ _ _ hread
    case h_19 => exact steady_code f 2 _ _ _ hread
    case h_20 => exact steady_code f 4 _ _ _ hread
    case h_21 => exact steady_code f 8 _ _ _ hread
    case h_22 => exact steady_property f false _ _ _ hread
    case h_23 => exact steady_property f true _ _ _ hread
    case h_24 => cases hread
    all_goals first
      | exact hset _ _ _ _ _ hread
      | exact hchar _ _ _ _ hread
      | exact hanchor _ _ _ _ hread

end Escape

end Regex

end PathRouting
