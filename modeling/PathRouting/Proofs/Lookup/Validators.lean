import PathRouting.Proofs.Lookup.Sight
import PathRouting.Proofs.Lookup.Confined
import PathRouting.Proofs.Tree.Validators

/-! # The validators that a lookup calls

A lookup calls only the validators that the patterns of its routes name, and depends on them only by
what they take.  A missing one is like one that takes nothing: no text fits its slots, so where a
route with such a slot answers, the slot has its default.
-/

namespace PathRouting

def Validator.nothing : Validator := fun _ _ => []

namespace Registry

variable {registry : Registry} {names : List Text} {name : Text}

/-- The registry with the validator that takes nothing under some names. -/
def silence (registry : Registry) (names : List Text) : Registry :=
  names.foldl (fun registry name => registry.insert name Validator.nothing) registry

theorem get?_silence : (registry.silence names).get? name =
    if name ∈ names then some Validator.nothing else registry.get? name := by
  unfold silence
  induction names generalizing registry with
  | nil => simp
  | cons first names ih =>
    rw [List.foldl_cons, ih, Dictionary.get?_insert]
    by_cases hn : name ∈ names
    · simp [hn]
    · by_cases hf : name = first <;> simp [hn, hf]

/-- The registries take the same under every rule that names a validator of the routes. -/
def Agree {ε : Type} (rs : List (Route ε)) (registry registry' : Registry) : Prop :=
  ∀ r ∈ rs, ∀ rule : Rule, rule.validator ∈ r.validators →
    registry.taken rule = registry'.taken rule

variable {ε : Type} {rs : List (Route ε)} {registry' : Registry}

theorem Agree.symm (h : Agree rs registry registry') : Agree rs registry' registry := by
  intro r hr rule hrule
  exact (h r hr rule hrule).symm

theorem agree_insert (validator : Validator) (h : ∀ r ∈ rs, name ∉ r.validators) :
    Agree rs registry (registry.insert name validator) := by
  intro r hr rule hrule
  have hne : rule.validator ≠ name := by
    rintro rfl
    exact h r hr hrule
  funext t
  rw [taken, taken, Dictionary.get?_insert, if_neg hne]

theorem agree_silence (h : ∀ name ∈ names, registry.contains name = false) :
    Agree rs registry (registry.silence names) := by
  intro r _ rule _
  funext t
  rw [taken, taken, get?_silence]
  split
  · rename_i hname
    have hnone : registry.get? rule.validator = none := by
      simpa [Dictionary.contains] using h _ hname
    rw [hnone]
    rfl
  · rfl

end Registry

namespace Routes

variable {ε : Type} {registry registry' : Registry} {seg : Segment} {t : Text}
  {bs : List Binding}

theorem Takes.of_taken (h : Takes registry seg t bs)
    (hslots : ∀ slot ∈ seg.slots, registry.taken slot.2 = registry'.taken slot.2) :
    Takes registry' seg t bs := by
  cases h with
  | plain => exact .plain _
  | slotted fits => exact .slotted (Fit.fits_of_taken fits hslots)

theorem Takes.contains (h : Takes registry seg t bs) {slot : Text × Rule}
    (hslot : slot ∈ seg.slots) : registry.contains slot.2.validator = true := by
  cases h with
  | plain => cases hslot
  | slotted fits =>
    obtain ⟨validator, hv⟩ := Fit.get?_of_fits fits slot hslot
    rw [Dictionary.contains, hv]
    rfl

variable [Endpoint ε] {rs : List (Route ε)} {v : Sight} {r : Route ε}
  {walked todo : List Segment} {left : List Text} {rest : Option Text}

theorem covers_of_agree (h : Registry.Agree rs v.registry registry) :
    Covers rs v { v with registry } where
  takes r hr seg hseg t bs htakes := by
    refine htakes.of_taken fun slot hslot => h r hr slot.2 ?_
    exact List.mem_flatMap.2 ⟨seg, hseg, List.mem_map_of_mem hslot⟩
  exposes _ _ _ hexposes := hexposes

theorem Accepts.mem_drop_of_missing (h : Accepts rs v r walked todo left bs rest)
    (hseg : seg ∈ todo) {slot : Text × Rule} (hslot : slot ∈ seg.slots)
    (hmissing : v.registry.contains slot.2.validator = false) : seg ∈ todo.drop left.length := by
  have hrest : seg ≠ .rest := by
    rintro rfl
    cases hslot
  rw [← List.take_append_drop left.length todo] at hseg
  rcases List.mem_append.1 hseg with hseg | hseg
  · obtain ⟨t, -, bs', -, htakes⟩ := h.takes_of_mem hseg hrest
    rw [htakes.contains hslot] at hmissing
    cases hmissing
  · exact hseg

end Routes

namespace Tree

open Routes

variable {ε : Type} [Endpoint ε] {t : Tree ε} {registry : Registry}

/-- A tree with validators that take the same gives the same answers. -/
theorem Reachable.lookup_of_agree (h : t.Reachable)
    (hagree : Registry.Agree t.routes t.registry registry) (method : Method) (path : Text) :
    ({ t with registry } : Tree ε).lookup method path = t.lookup method path := by
  have ht' : ({ t with registry } : Tree ε).Sound := (h.equip registry t.selector).sound
  cases hs : Path.segments path with
  | none => rw [lookup_of_malformed hs, lookup_of_malformed hs]
  | some s =>
    have hcovers : Covers t.routes (t.sight method path s)
        { t.sight method path s with registry } :=
      covers_of_agree hagree
    have hcovers' : Covers t.routes { t.sight method path s with registry }
        (t.sight method path s) :=
      covers_of_agree hagree.symm
    rcases h.sound.lookup_cases method hs with ⟨r, bs, rest, hc, he⟩ | ⟨he, hno⟩
    · obtain ⟨rest', hc', hrest⟩ := hc.of_covers hcovers hcovers'
      obtain rfl := hrest rfl
      rw [he]
      exact (lookup_eq_matched ht').2 ⟨s, r, bs, rest', hs, hc', rfl⟩
    · rw [he]
      refine (lookup_eq_notFound ht').2 ⟨s, hs, ?_⟩
      intro r hr bs rest ha
      obtain ⟨rest', ha', -⟩ := ha.of_covers hcovers' hr
      exact hno r hr bs rest' ha'

/-- Validators that no pattern names make no difference to a lookup, and neither do validators that
take nothing in the place of missing ones.  So a slot whose validator is missing has its default in
every match, the path having ended before it. -/
theorem lookup_by_named_validators (h : t.Reachable) (method : Method) (path : Text) :
    (∀ name validator, (∀ r ∈ t.routes, name ∉ r.validators) →
      ({ t with registry := t.registry.insert name validator } : Tree ε).lookup method path =
        t.lookup method path) ∧
    (∀ names ⊆ t.missingValidators,
      ({ t with registry := t.registry.silence names } : Tree ε).lookup method path =
        t.lookup method path) ∧
    ∀ m, t.lookup method path = .matched m → ∃ ss s, Pattern.parse m.route.pattern = .ok ss ∧
      Path.segments path = some s ∧
      ∀ seg ∈ ss, ∀ slot ∈ seg.slots, slot.2.validator ∈ t.missingValidators →
        seg ∈ ss.drop s.length ∧ ∃ value, slot.2.default = some value ∧
          m.params.get? slot.1 = some value := by
  refine ⟨fun name validator hname => ?_, fun names hnames => ?_, fun m hm => ?_⟩
  · exact h.lookup_of_agree (Registry.agree_insert validator hname) method path
  · have hmissing : ∀ name ∈ names, t.registry.contains name = false := fun name hname =>
      (h.sound.mem_missingValidators.1 (hnames hname)).2
    exact h.lookup_of_agree (Registry.agree_silence hmissing) method path
  · obtain ⟨s, bs, rest, hs, ha, hparse, hparams, -, hnd⟩ := h.sound.of_matched hm
    refine ⟨m.route.segments, s, hparse, hs, ?_⟩
    intro seg hseg slot hslot hmissing
    have hpast : seg ∈ m.route.segments.drop s.length :=
      ha.mem_drop_of_missing hseg hslot (h.sound.mem_missingValidators.1 hmissing).2
    obtain ⟨value, hdefault, hb, -⟩ := ha.defaulted hpast hslot
    refine ⟨hpast, value, hdefault, ?_⟩
    rw [hparams]
    exact Dictionary.get?_ofList_of_mem hnd (List.mem_append_left _ hb)

/-- An archive by years, without a validator for them. -/
def archive : Tree Controller :=
  (empty .builtIn usualSelector).attemptAll
    [⟨"/archive/<year=2024:year>".toList, .of "archive".toList⟩]

theorem archive_reachable : archive.Reachable := (Reachable.empty ..).attemptAll _

def optionalYear : Segment :=
  .slotted "<year=2024:year>".toList
    [.slot "year".toList { Rule.of "year".toList with default := some "2024".toList }]

/-- The year can only be left out, with a validator that takes nothing as well as without one. -/
theorem archive_year_by_default :
    archive.Reachable ∧ (∀ r ∈ archive.routes, "slug".toList ∉ r.validators) ∧
      ["year".toList] ⊆ archive.missingValidators ∧
      ({ archive with registry := archive.registry.insert "slug".toList Validator.all } :
          Tree Controller).lookup .get "/archive".toList =
        archive.lookup .get "/archive".toList ∧
      ({ archive with registry := archive.registry.silence ["year".toList] } :
          Tree Controller).lookup .get "/archive".toList =
        archive.lookup .get "/archive".toList ∧
      ∃ m, archive.lookup .get "/archive".toList = .matched m ∧
        m.params.get? "year".toList = some "2024".toList := by
  have hslug : ∀ r ∈ archive.routes, "slug".toList ∉ r.validators := by decide +kernel
  have hyear : ["year".toList] ⊆ archive.missingValidators := by decide +kernel
  obtain ⟨hinsert, hsilence, hdefault⟩ :=
    lookup_by_named_validators archive_reachable .get "/archive".toList
  refine ⟨archive_reachable, hslug, hyear, hinsert _ _ hslug, hsilence _ hyear, ?_⟩
  have hm : archive.lookup .get "/archive".toList = .matched
      ⟨⟨"/archive/<year=2024:year>".toList, .of "archive".toList⟩,
        .ofList [("year".toList, "2024".toList)], none⟩ := by
    decide +kernel
  obtain ⟨ss, s, hparse, -, hslots⟩ := hdefault _ hm
  have hseg : optionalYear ∈ ss := by
    have he : (Pattern.parse "/archive/<year=2024:year>".toList).toOption.any
        (optionalYear ∈ ·) = true := by
      decide +kernel
    rw [hparse] at he
    simpa [Except.toOption] using he
  obtain ⟨-, value, hvalue, hparam⟩ :=
    hslots optionalYear hseg _ (List.mem_singleton_self _) (hyear (List.mem_singleton_self _))
  cases hvalue
  exact ⟨_, hm, hparam⟩

end Tree

end PathRouting
