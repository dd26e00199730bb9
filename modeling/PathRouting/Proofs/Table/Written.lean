import Mathlib.Data.List.Forall2
import PathRouting.Proofs.Dictionary
import PathRouting.Proofs.Document.Json
import PathRouting.Regex.Match
import PathRouting.Table.Build
import PathRouting.Table.Encode
import PathRouting.Table.Format

/-! # Tables written and read back

A table that is written as JSON is read back as it was.  Controllers and their actions have no order
of their own, so they may be written in any.
-/

namespace PathRouting

theorem mapM_of_forall₂ {α β : Type} {f : β → Option α} {as : List α} {bs : List β}
    (h : List.Forall₂ (fun a b => f b = some a) as bs) : bs.mapM f = some as := by
  induction h with
  | nil => rfl
  | cons head _ ih =>
    rw [List.mapM_cons, head, ih]
    rfl

namespace Data

variable {names : List Text} {values : List (Option Data)} {es : List (Text × Data)}

def ofEntries (es : List (Text × Data)) : Data := .map (es.map fun e => (.text e.1, e.2))

def fields (names : List Text) (values : List (Option Data)) : List (Text × Data) :=
  (names.zip values).filterMap fun f => f.2.map (f.1, ·)

theorem textual_ofEntries (h : ∀ e ∈ es, e.2.Textual) : (ofEntries es).Textual := by
  refine .map ?_ ?_
  · intro e he
    obtain ⟨e, -, rfl⟩ := List.mem_map.1 he
    exact ⟨e.1, rfl⟩
  · intro e he
    obtain ⟨e', he', rfl⟩ := List.mem_map.1 he
    exact h e' he'

theorem fields_cons (name : Text) (names : List Text) (value : Option Data)
    (values : List (Option Data)) : fields (name :: names) (value :: values) =
      (value.map (name, ·)).toList ++ fields names values := by
  cases value <;> rfl

theorem keys_fields (names : List Text) (values : List (Option Data)) :
    ((fields names values).map (·.1)).Sublist names := by
  induction names generalizing values with
  | nil => exact .slnil
  | cons name names ih =>
    rcases values with _ | ⟨value, values⟩
    · exact List.nil_sublist _
    · rw [fields_cons]
      cases value with
      | none => exact (ih values).cons name
      | some d => exact (ih values).cons_cons name

theorem textual_fields (h : ∀ d, some d ∈ values → d.Textual) :
    (ofEntries (fields names values)).Textual := by
  apply textual_ofEntries
  intro e he
  obtain ⟨⟨name, value⟩, hzip, hvalue⟩ := List.mem_filterMap.1 he
  obtain ⟨d, rfl, rfl⟩ := Option.map_eq_some_iff.1 hvalue
  exact h d (List.of_mem_zip hzip).2

theorem lookup_eq_none {k : Text} (h : k ∉ es.map (·.1)) : es.lookup k = none := by
  rw [List.lookup_eq_none_iff]
  intro e he
  rw [bne_iff_ne]
  rintro rfl
  exact h (List.mem_map_of_mem he)

theorem lookup_fields (hn : names.Nodup) (hlen : names.length = values.length) :
    names.map ((fields names values).lookup ·) = values := by
  induction names generalizing values with
  | nil => exact (List.length_eq_zero_iff.1 hlen.symm).symm
  | cons name names ih =>
    obtain ⟨value, values, rfl⟩ := List.exists_cons_of_length_eq_add_one hlen.symm
    obtain ⟨hname, hn⟩ := List.nodup_cons.1 hn
    have hother := ih hn (Nat.succ.inj hlen)
    rw [fields_cons, List.map_cons]
    cases value with
    | none =>
      have hnone := lookup_eq_none (mt ((keys_fields names values).subset ·) hname)
      exact congrArg₂ List.cons hnone hother
    | some d =>
      refine congrArg₂ List.cons List.lookup_cons_self (Eq.trans (List.map_congr_left ?_) hother)
      intro k hk
      have hne : k ≠ name := ne_of_mem_of_not_mem hk hname
      exact (Dictionary.lookup_cons_eq ..).trans (if_neg hne)

end Data

namespace Format

open Data

variable {names : List Text} {values : List (Option Data)}

theorem map?_ofEntries (es : List (Text × Data)) :
    jsonConventions.map? (.ofEntries es) = some es :=
  mapM_of_forall₂ (List.forall₂_map_right_iff.2 (List.forall₂_same.2 fun _ _ => rfl))

theorem record?_fields (hn : names.Nodup) (hlen : names.length = values.length) :
    jsonConventions.record? names (.ofEntries (fields names values)) = some values := by
  have hkeys := keys_fields names values
  have honce : (names.any fun name =>
      1 < ((fields names values).filter (·.1 == name)).length) = false := by
    rw [List.any_eq_false]
    intro name _
    have hcount := (List.nodup_iff_count_le_one.1 (hn.sublist hkeys)) name
    rw [List.count_eq_countP, List.countP_map, List.countP_eq_length_filter] at hcount
    rw [decide_eq_true_iff, Nat.not_lt]
    exact hcount
  have hknown : ((fields names values).any fun e => !names.contains e.1 && e.2.overflows) =
      false := by
    rw [List.any_eq_false]
    intro e he
    have hname : e.1 ∈ names := hkeys.subset (List.mem_map_of_mem he)
    simp [hname]
  change (jsonConventions.map? (.ofEntries (fields names values)) >>= _) = _
  simp only [map?_ofEntries, Option.bind_eq_bind, Option.bind_some, honce, hknown,
    lookup_fields hn hlen]
  rfl

end Format

/-! ## What may be written -/

/-- Data that a dictionary is written as, its entries in some order and each value in one of the ways
it may be written. -/
inductive Dictionary.Written {α : Type} (write : α → Data → Prop) (d : Dictionary α) : Data → Prop where
  | intro {es : List (Text × α)} {ws : List (Text × Data)} (perm : es.Perm d.entries)
      (written : List.Forall₂ (fun e w => w.1 = e.1 ∧ write e.2 w.2) es ws) :
      Written write d (.ofEntries ws)

/-- Data that a list of texts is written as. -/
def Data.ofTexts (ts : List Text) : Data := .list (ts.map .text)

theorem Data.textual_ofTexts (ts : List Text) : (ofTexts ts).Textual := by
  refine .list fun d hd => ?_
  obtain ⟨t, -, rfl⟩ := List.mem_map.1 hd
  exact .text t

inductive ControllerSpec.Written (c : ControllerSpec) : Data → Prop where
  | intro {actions : Data} (written : c.actions.Written (.ofTexts · = ·) actions) :
      Written c (.ofEntries [("actions".toList, actions)])

/-- Data that a table is written as.  Without a selector there is no such field. -/
inductive Table.Written (t : Table) : Data → Prop where
  | intro {controllers : Data} (written : t.controllers.Written ControllerSpec.Written controllers) :
      Written t (.ofEntries (Data.fields fieldNames [t.selector.map .text,
        some (.ofDictionary .text t.validators), some controllers,
        some (.list (t.routes.map RouteSpec.toData))]))

namespace Dictionary

variable {α : Type} {write : α → Data → Prop} {f : α → Data} {read? : Data → Option α}
  {d : Dictionary α} {data : Data}

theorem Written.read (h : d.Written write data) (hread : ∀ a w, write a w → read? w = some a) :
    Format.jsonConventions.dictionary? read? data = some d := by
  obtain ⟨perm, written⟩ := h
  rename_i es ws
  have hes : ws.mapM (fun w => (read? w.2).map (w.1, ·)) = some es := by
    apply mapM_of_forall₂
    apply written.imp
    rintro e w ⟨hk, hw⟩
    rw [hread _ _ hw, hk]
    rfl
  rw [Conventions.dictionary?, Format.map?_ofEntries]
  simp only [Option.bind_eq_bind, Option.bind_some, hes, ofList_of_perm perm]
  rfl

theorem Written.textual (h : d.Written write data) (htext : ∀ a w, write a w → w.Textual) :
    data.Textual := by
  obtain ⟨-, written⟩ := h
  apply Data.textual_ofEntries
  induction written with
  | nil => exact nofun
  | cons head _ ih => exact List.forall_mem_cons.2 ⟨htext _ _ head.2, ih⟩

theorem written_ofDictionary (h : ∀ a, write a (f a)) (d : Dictionary α) :
    d.Written write (.ofDictionary f d) := by
  have he : Data.ofDictionary f d = .ofEntries (d.entries.map fun e => (e.1, f e.2)) := by
    rw [Data.ofDictionary, Data.ofEntries, List.map_map]
    rfl
  rw [he]
  refine .intro (.refl _) (List.forall₂_map_right_iff.2 (List.forall₂_same.2 ?_))
  exact fun e _ => ⟨rfl, h e.2⟩

end Dictionary

/-! ## Reading it back -/

namespace Format

theorem items?_map {α : Type} {read? : Data → Option α} {write : α → Data}
    (h : ∀ a, read? (write a) = some a) (as : List α) :
    jsonConventions.items? read? (.list (as.map write)) = some as :=
  mapM_of_forall₂ (List.forall₂_map_right_iff.2 (List.forall₂_same.2 fun a _ => h a))

end Format

open Format

namespace ControllerSpec

variable {c : ControllerSpec} {d : Data}

theorem Written.read (h : c.Written d) : read? jsonConventions d = some c := by
  obtain ⟨written⟩ := h
  rename_i actions
  have hfields : jsonConventions.record? ["actions".toList]
      (.ofEntries [("actions".toList, actions)]) = some [some actions] :=
    @record?_fields _ [some actions] (List.nodup_singleton _) rfl
  have hactions : jsonConventions.dictionary? (jsonConventions.items? jsonConventions.readText?)
      actions = some c.actions := by
    apply written.read
    rintro ms _ rfl
    exact @items?_map _ _ Data.text (fun _ => rfl) ms
  rw [read?, hfields]
  simp only [Option.bind_eq_bind, Option.bind_some, fieldOr, Option.elim_some, hactions]
  rfl

theorem Written.textual (h : c.Written d) : d.Textual := by
  obtain ⟨written⟩ := h
  have hactions := written.textual fun ms _ he => he ▸ Data.textual_ofTexts ms
  exact Data.textual_ofEntries (List.forall_mem_singleton.2 hactions)

theorem written_toData (c : ControllerSpec) : c.Written c.toData :=
  .intro (Dictionary.written_ofDictionary (fun _ => rfl) c.actions)

end ControllerSpec

namespace RouteSpec

theorem read?_toData (r : RouteSpec) : read? jsonConventions r.toData = some r := by
  have hfields : jsonConventions.record? ["pattern".toList, "controller".toList] r.toData =
      some [some (.text r.pattern), some (.text r.controller)] :=
    @record?_fields ["pattern".toList, "controller".toList]
      [some (.text r.pattern), some (.text r.controller)] (by decide) rfl
  rw [read?, hfields]
  rfl

theorem textual_toData (r : RouteSpec) : r.toData.Textual := by
  have hentries : ∀ e ∈ [("pattern".toList, Data.text r.pattern),
      ("controller".toList, Data.text r.controller)], e.2.Textual := by
    rintro e he
    rcases List.mem_pair.1 he with rfl | rfl
    · exact .text r.pattern
    · exact .text r.controller
  exact Data.textual_ofEntries hentries

end RouteSpec

namespace Table

variable {t : Table} {d : Data}

theorem Written.read (h : t.Written d) : read? jsonConventions d = some t := by
  obtain ⟨written⟩ := h
  rename_i controllers
  have hfields := @record?_fields fieldNames [t.selector.map .text,
    some (.ofDictionary .text t.validators), some controllers,
    some (.list (t.routes.map RouteSpec.toData))] (by decide +kernel) rfl
  have hselector : fieldOr none jsonConventions.readOptional? (t.selector.map .text) =
      some t.selector := by
    cases t.selector <;> rfl
  have hvalidators : jsonConventions.dictionary? jsonConventions.readText?
      (.ofDictionary .text t.validators) = some t.validators := by
    apply (Dictionary.written_ofDictionary (fun _ => rfl) t.validators).read
    rintro text _ rfl
    rfl
  have hcontrollers : jsonConventions.dictionary? (ControllerSpec.read? jsonConventions)
      controllers = some t.controllers :=
    written.read fun _ _ hc => hc.read
  have hroutes := items?_map RouteSpec.read?_toData t.routes
  rw [read?, hfields]
  simp only [Option.bind_eq_bind, Option.bind_some, hselector]
  simp only [fieldOr, Option.elim_some, hvalidators, hcontrollers, hroutes, Option.bind_some]
  rfl

theorem Written.textual (h : t.Written d) : d.Textual := by
  obtain ⟨written⟩ := h
  have hcontrollers := written.textual fun _ _ hc => hc.textual
  have hvalidators := (Dictionary.written_ofDictionary (fun _ => rfl) t.validators).textual
    fun text _ he => he ▸ .text text
  have hroutes : ∀ d ∈ t.routes.map RouteSpec.toData, d.Textual := by
    intro d hd
    obtain ⟨r, -, rfl⟩ := List.mem_map.1 hd
    exact r.textual_toData
  apply Data.textual_fields
  simp only [List.mem_cons, List.not_mem_nil, or_false]
  rintro d (hd | hd | hd | hd)
  · obtain ⟨text, -, rfl⟩ := Option.map_eq_some_iff.1 hd.symm
    exact .text text
  · cases hd
    exact hvalidators
  · cases hd
    exact hcontrollers
  · cases hd
    exact .list hroutes

theorem written_toData (t : Table) : t.Written t.toData := by
  have hcontrollers :=
    Dictionary.written_ofDictionary ControllerSpec.written_toData t.controllers
  have hwritten := Written.intro (t := t) hcontrollers
  obtain ⟨selector, validators, controllers, routes⟩ := t
  cases selector with
  | none => exact hwritten
  | some selector => exact hwritten

theorem Written.parse {text : Text} (h : t.Written d) (htext : Json.parse text = some d) :
    Table.parse .json text = some t := by
  rw [Table.parse, Format.parse, htext]
  exact h.read

theorem parse_toJson (t : Table) : parse .json t.toJson = some t :=
  t.written_toData.parse (Json.parse_render t.written_toData.textual)

/-- A table is read back from its JSON, in whatever order its controllers and their actions are
written and whatever the texts in it, and so the same is built from it.  That needs no more of a
writer and a reader than that one reads what the other wrote. -/
theorem parse_written [Engine] (t : Table) :
    parse .json t.toJson = some t ∧ t.Written t.toData ∧
      (∀ d, t.Written d → Json.parse (Json.render d) = some d ∧
        ∀ text, Json.parse text = some d → parse .json text = some t ∧
          ∀ selector, (parse .json text).map (·.build selector) = some (t.build selector)) ∧
      ∀ (write : Data → Text) (read : Text → Option Data),
        (∀ d : Data, d.Textual → read (write d) = some d) →
          ∀ d, t.Written d → (read (write d)).bind (read? jsonConventions) = some t := by
  refine ⟨t.parse_toJson, t.written_toData, fun d hd => ?_, fun write read hread d hd => ?_⟩
  · refine ⟨Json.parse_render hd.textual, fun text htext => ?_⟩
    refine ⟨hd.parse htext, fun selector => ?_⟩
    rw [hd.parse htext]
    rfl
  · rw [hread d hd.textual]
    exact hd.read

/-- Two controllers, one with two actions, and a validator that needs escapes. -/
def gallery : Table where
  selector := none
  validators := ⟨[("\"quoted\"".toList, "[^\"\\\\\x01]+".toList)], by decide⟩
  controllers := ⟨[("edit".toList, ⟨⟨[("crop".toList, []), ("save".toList, ["POST".toList])],
    by decide⟩⟩), ("view".toList, ⟨∅⟩)], by decide⟩
  routes := [⟨"/view".toList, "view".toList⟩, ⟨"/edit".toList, "edit".toList⟩]

/-- The gallery with its controllers and their actions the other way round. -/
def galleryReversed : Data :=
  .ofEntries [("validators".toList, .ofDictionary .text gallery.validators),
    ("controllers".toList, .ofEntries [
      ("view".toList, .ofEntries [("actions".toList, .ofEntries [])]),
      ("edit".toList, .ofEntries [("actions".toList, .ofEntries [
        ("save".toList, .ofTexts ["POST".toList]), ("crop".toList, .ofTexts [])])])]),
    ("routes".toList, .list (gallery.routes.map RouteSpec.toData))]

theorem galleryReversed_read : gallery.Written galleryReversed ∧
    Json.parse (Json.render galleryReversed) = some galleryReversed ∧
      parse .json (Json.render galleryReversed) = some gallery ∧
      (Json.parse (Json.render galleryReversed)).bind (read? jsonConventions) = some gallery := by
  have hview : ControllerSpec.Written ⟨∅⟩ (.ofEntries [("actions".toList, .ofEntries [])]) :=
    .intro (.intro (.refl _) .nil)
  have hedit : ControllerSpec.Written
      ⟨⟨[("crop".toList, []), ("save".toList, ["POST".toList])], by decide⟩⟩
      (.ofEntries [("actions".toList, .ofEntries [
        ("save".toList, .ofTexts ["POST".toList]), ("crop".toList, .ofTexts [])])]) :=
    .intro (.intro (.swap ..) (.cons ⟨rfl, rfl⟩ (.cons ⟨rfl, rfl⟩ .nil)))
  have hwritten : gallery.Written galleryReversed :=
    .intro (.intro (.swap ..) (.cons ⟨rfl, hview⟩ (.cons ⟨rfl, hedit⟩ .nil)))
  obtain ⟨-, -, hparse, hany⟩ := gallery.parse_written
  obtain ⟨hjson, hread⟩ := hparse galleryReversed hwritten
  have hbind := hany Json.render Json.parse (fun _ => Json.parse_render) galleryReversed hwritten
  exact ⟨hwritten, hjson, (hread _ hjson).1, hbind⟩

end Table

end PathRouting
