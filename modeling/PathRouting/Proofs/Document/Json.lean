import Mathlib.Data.List.Basic
import PathRouting.Document.Json

/-! # JSON read back

Data whose scalars are all texts are read back from their JSON as they were, whatever the texts
are made of.
-/

namespace PathRouting

theorem Text.char?_toNat (c : Char) : char? c.toNat = some c := by
  have hc : c.toNat.isValidChar := c.valid
  rw [char?, dif_pos hc]
  rfl

/-- Texts, and the lists and maps of them, where the keys of maps are texts too. -/
inductive Data.Textual : Data → Prop where
  | text (t : Text) : Textual (.text t)
  | list {ds : List Data} (items : ∀ d ∈ ds, d.Textual) : Textual (.list ds)
  | map {es : List (Data × Data)} (keys : ∀ e ∈ es, ∃ k, e.1 = .text k)
      (values : ∀ e ∈ es, e.2.Textual) : Textual (.map es)

namespace Json

variable {c e : Char} {d : Data} {ds : List Data} {es : List (Data × Data)} {fuel : Nat}
  {t rest : Text}

/-! ## Strings -/

theorem hexValue?_digitChars : ∀ n < 0x20, Text.hexValue?
    ['0', '0', Nat.digitChar (n / 16), Nat.digitChar (n % 16)] = some n := by
  decide

theorem units_short (h : shortEscape? e = some c) (fuel : Nat) (t : Text) :
    units (fuel + 1) ('\\' :: e :: t) = (units fuel t).map fun (us, t) => (.inl c :: us, t) := by
  rw [units, h]
  · cases units fuel t <;> rfl
  · rintro rfl
    cases h

theorem units_code (h : c.toNat < 0x20) (fuel : Nat) (t : Text) :
    units (fuel + 1) ('\\' :: 'u' :: '0' :: '0' :: Nat.digitChar (c.toNat / 16) ::
      Nat.digitChar (c.toNat % 16) :: t) =
      (units fuel t).map fun (us, t) => (.inl c :: us, t) := by
  have hcode : code? ('0' :: '0' :: Nat.digitChar (c.toNat / 16) ::
      Nat.digitChar (c.toNat % 16) :: t) = some (c.toNat, t) := by
    rw [code?, hexValue?_digitChars _ h]
    rfl
  rw [units, hcode]
  simp only [Option.bind_eq_bind, Option.bind_some, Text.char?_toNat]
  cases units fuel t <;> rfl

theorem units_plain (hquote : c ≠ '"') (hslash : c ≠ '\\') (h : ¬c.toNat < 0x20) (fuel : Nat)
    (t : Text) :
    units (fuel + 1) (c :: t) = (units fuel t).map fun (us, t) => (.inl c :: us, t) := by
  rw [units, if_neg (not_or.2 ⟨hslash, h⟩)]
  · cases units fuel t <;> rfl
  · exact hquote
  · exact fun _ hc _ => hslash hc
  · exact fun _ _ hc _ => hslash hc

theorem units_escape (c : Char) (fuel : Nat) (t : Text) :
    units (fuel + 1) (escape c ++ t) = (units fuel t).map fun (us, t) => (.inl c :: us, t) := by
  unfold escape
  split_ifs with h₁ h₂ h₃ h₄ h₅ h₆ h₇ h₈
  · subst h₁
    exact units_short rfl fuel t
  · subst h₂
    exact units_short rfl fuel t
  · subst h₃
    exact units_short rfl fuel t
  · subst h₄
    exact units_short rfl fuel t
  · subst h₅
    exact units_short rfl fuel t
  · subst h₆
    exact units_short rfl fuel t
  · subst h₇
    exact units_short rfl fuel t
  · exact units_code h₈ fuel t
  · exact units_plain h₁ h₂ h₈ fuel t

theorem length_escape_pos (c : Char) : 0 < (escape c).length := by
  unfold escape
  split_ifs <;> exact Nat.succ_pos _

theorem units_flatMap_escape (h : (t.flatMap escape).length < fuel) (rest : Text) :
    units fuel (t.flatMap escape ++ '"' :: rest) = some (t.map .inl, rest) := by
  induction t generalizing fuel with
  | nil =>
    obtain ⟨fuel, rfl⟩ := Nat.exists_eq_add_one_of_ne_zero (Nat.ne_zero_of_lt h)
    rfl
  | cons c t ih =>
    obtain ⟨fuel, rfl⟩ := Nat.exists_eq_add_one_of_ne_zero (Nat.ne_zero_of_lt h)
    rw [List.flatMap_cons, List.length_append] at h
    have hc := length_escape_pos c
    rw [List.flatMap_cons, List.append_assoc, units_escape, ih (by omega)]
    rfl

theorem textOf?_map_inl (t : Text) : textOf? (t.map .inl) = some t := by
  induction t with
  | nil => rfl
  | cons c t ih => rw [List.map_cons, textOf?, ih, Option.map_some]

theorem string_flatMap_escape (h : (t.flatMap escape).length < fuel) (rest : Text) :
    string fuel (t.flatMap escape ++ '"' :: rest) = some (.text t, rest) := by
  rw [string, units_flatMap_escape h]
  simp only [Option.bind_eq_bind, Option.bind_some, textOf?_map_inl]
  rfl

/-! ## Lists and maps -/

@[simp] theorem skip_cons (h : isSpace c = false) (t : Text) : skip (c :: t) = c :: t :=
  List.dropWhile_cons_of_neg (by rw [h]; exact Bool.false_ne_true)

/-- The data are read from their JSON, up to its end. -/
def ReadBack (d : Data) : Prop :=
  ∀ fuel rest, (render d).length ≤ fuel → value fuel (render d ++ rest) = some (d, rest)

theorem length_quote (t : Text) : (quote t).length = (t.flatMap escape).length + 2 := by
  simp [quote]

theorem readBack_text (t : Text) : ReadBack (.text t) := by
  intro fuel rest h
  rw [render, length_quote] at h
  obtain ⟨fuel, rfl⟩ : ∃ n, fuel = n + 1 := ⟨fuel - 1, by omega⟩
  rw [render, quote, List.append_assoc, List.cons_append, value, skip_cons rfl]
  exact string_flatMap_escape (by omega) rest

theorem renderItems_cons (d : Data) (hds : ds ≠ []) :
    renderItems (d :: ds) = render d ++ ',' :: renderItems ds := by
  rcases ds with _ | ⟨d', ds⟩
  · exact absurd rfl hds
  · rfl

theorem renderEntries_cons (k d : Data) (hes : es ≠ []) :
    renderEntries ((k, d) :: es) = render k ++ ':' :: render d ++ ',' :: renderEntries es := by
  rcases es with _ | ⟨e, es⟩
  · exact absurd rfl hes
  · rfl

theorem items_renderItems (hds : ∀ d ∈ ds, ReadBack d) (hne : ds ≠ [])
    (h : (renderItems ds).length < fuel) (rest : Text) :
    items fuel (renderItems ds ++ ']' :: rest) = some (ds, rest) := by
  induction ds generalizing fuel with
  | nil => exact absurd rfl hne
  | cons d ds ih =>
    obtain ⟨hd, hds⟩ := List.forall_mem_cons.1 hds
    obtain ⟨fuel, rfl⟩ := Nat.exists_eq_add_one_of_ne_zero (Nat.ne_zero_of_lt h)
    rcases eq_or_ne ds [] with rfl | hne
    · rw [renderItems] at h ⊢
      rw [items, hd fuel _ (by omega)]
      simp only [Option.bind_eq_bind, Option.bind_some, skip_cons (c := ']') rfl]
      rfl
    · rw [renderItems_cons d hne, List.length_append, List.length_cons] at h
      rw [renderItems_cons d hne, List.append_assoc, List.cons_append, items,
        hd fuel _ (by omega)]
      simp only [Option.bind_eq_bind, Option.bind_some, skip_cons (c := ',') rfl]
      rw [ih hds hne (by omega)]
      rfl

theorem entries_entry (k : Text) (hd : ReadBack d) (hk : (quote k).length ≤ fuel)
    (h : (render d).length ≤ fuel) (t : Text) :
    entries (fuel + 1) (quote k ++ ':' :: (render d ++ t)) =
      match skip t with
      | ',' :: t => do
        let (es, t) ← entries fuel t
        pure ((.text k, d) :: es, t)
      | '\x7d' :: t => pure ([(.text k, d)], t)
      | _ => none := by
  rw [length_quote] at hk
  rw [entries, quote, List.append_assoc, List.cons_append, skip_cons rfl]
  simp only [List.singleton_append, string_flatMap_escape (Nat.lt_of_succ_lt hk),
    Option.bind_eq_bind, Option.bind_some, skip_cons (c := ':') rfl]
  rw [hd fuel t h]
  rfl

theorem entries_renderEntries (hkeys : ∀ e ∈ es, ∃ k, e.1 = .text k)
    (hvalues : ∀ e ∈ es, ReadBack e.2) (hne : es ≠ []) (h : (renderEntries es).length < fuel)
    (rest : Text) : entries fuel (renderEntries es ++ '\x7d' :: rest) = some (es, rest) := by
  induction es generalizing fuel with
  | nil => exact absurd rfl hne
  | cons e es ih =>
    obtain ⟨k, d⟩ := e
    obtain ⟨⟨k, hk⟩, hes⟩ := List.forall_mem_cons.1 hkeys
    obtain ⟨hd, hvs⟩ := List.forall_mem_cons.1 hvalues
    dsimp only at hk hd
    subst hk
    obtain ⟨fuel, rfl⟩ := Nat.exists_eq_add_one_of_ne_zero (Nat.ne_zero_of_lt h)
    rcases eq_or_ne es [] with rfl | hne
    · rw [renderEntries, render, List.length_append, List.length_cons] at h
      rw [renderEntries, render, List.append_assoc, List.cons_append,
        entries_entry k hd (by omega) (by omega), skip_cons rfl]
      rfl
    · rw [renderEntries_cons _ d hne, render, List.append_assoc, List.length_append,
        List.cons_append, List.length_cons, List.length_append, List.length_cons] at h
      rw [renderEntries_cons _ d hne, render, List.append_assoc, List.append_assoc,
        List.cons_append, List.cons_append, entries_entry k hd (by omega) (by omega)]
      simp only [skip_cons (c := ',') rfl]
      rw [ih hes hvs hne (by omega)]
      rfl

theorem value_list (hspace : isSpace c = false) (hc : c ≠ ']') (fuel : Nat) (t : Text) :
    value (fuel + 1) ('[' :: c :: t) =
      (items fuel (c :: t)).map fun (ds, t) => (.list ds, t) := by
  simp only [value, skip_cons (c := '[') rfl, skip_cons hspace]
  split
  · rename_i h
    exact absurd (List.head_eq_of_cons_eq h) hc
  · rfl

theorem value_map (fuel : Nat) (t : Text) :
    value (fuel + 1) ('\x7b' :: '"' :: t) =
      (entries fuel ('"' :: t)).map fun (es, t) => (.map es, t) := by
  simp only [value, skip_cons (c := '\x7b') rfl, skip_cons (c := '"') rfl]
  rfl

theorem renderItems_eq_cons (h : render d = c :: t) (ds : List Data) :
    ∃ u, renderItems (d :: ds) = c :: u := by
  rcases ds with _ | ⟨d', ds⟩
  · exact ⟨t, by rw [renderItems, h]⟩
  · exact ⟨_, by rw [renderItems_cons d (List.cons_ne_nil d' ds), h, List.cons_append]⟩

theorem renderEntries_eq_cons (k : Text) (d : Data) (es : List (Data × Data)) :
    ∃ u, renderEntries ((.text k, d) :: es) = '"' :: u := by
  rcases es with _ | ⟨e, es⟩
  · exact ⟨_, rfl⟩
  · exact ⟨_, rfl⟩

end Json

namespace Data

open Json

variable {d : Data}

theorem Textual.render_eq_cons (h : d.Textual) :
    ∃ c t, render d = c :: t ∧ isSpace c = false ∧ c ≠ ']' := by
  cases h with
  | text t => exact ⟨_, _, rfl, rfl, by decide⟩
  | list items => exact ⟨_, _, rfl, rfl, by decide⟩
  | map keys values => exact ⟨_, _, rfl, rfl, by decide⟩

theorem Textual.readBack (h : d.Textual) : ReadBack d := by
  induction h with
  | text t => exact readBack_text t
  | @list ds items ih =>
    intro fuel rest h
    rw [render, List.cons_append, List.length_cons, List.length_append, List.length_singleton] at h
    obtain ⟨fuel, rfl⟩ : ∃ n, fuel = n + 1 := ⟨fuel - 1, by omega⟩
    rw [render, List.cons_append, List.cons_append, List.append_assoc, List.singleton_append]
    rcases ds with _ | ⟨d, ds⟩
    · rfl
    · obtain ⟨c, t, ht, hspace, hc⟩ := (items d List.mem_cons_self).render_eq_cons
      obtain ⟨u, hu⟩ := renderItems_eq_cons ht ds
      have hitems := items_renderItems ih (List.cons_ne_nil d ds) (by omega : _ < fuel) rest
      rw [hu, List.cons_append] at hitems ⊢
      rw [value_list hspace hc, hitems]
      rfl
  | @map es keys values ih =>
    intro fuel rest h
    rw [render, List.cons_append, List.length_cons, List.length_append, List.length_singleton] at h
    obtain ⟨fuel, rfl⟩ : ∃ n, fuel = n + 1 := ⟨fuel - 1, by omega⟩
    rw [render, List.cons_append, List.cons_append, List.append_assoc, List.singleton_append]
    rcases es with _ | ⟨⟨k, d⟩, es⟩
    · rfl
    · obtain ⟨k, rfl⟩ : ∃ t, k = .text t := keys _ List.mem_cons_self
      obtain ⟨u, hu⟩ := renderEntries_eq_cons k d es
      have hentries :=
        entries_renderEntries keys ih (List.cons_ne_nil _ es) (by omega : _ < fuel) rest
      rw [hu, List.cons_append] at hentries ⊢
      rw [value_map, hentries]
      rfl

end Data

namespace Json

theorem parse_render {d : Data} (h : d.Textual) : parse (render d) = some d := by
  have hvalue := h.readBack (2 * (render d).length + 2) [] (by omega)
  rw [List.append_nil] at hvalue
  rw [parse, hvalue]
  rfl

end Json

end PathRouting
