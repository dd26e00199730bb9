import PathRouting.Proofs.Tree.Verdict

/-! # Registering many routes

A list of routes is admissible if their patterns can be read, differ and do not clash.  These are
the lists that can be registered one by one without a rejection, so it does not matter for that in
which order they come.
-/

namespace PathRouting

namespace Routes

variable {ε : Type} {rs rs' : List (Route ε)} {r r' : Route ε}

/-- The patterns of two routes differ and do not clash. -/
def Compatible (r r' : Route ε) : Prop :=
  r.segments ≠ r'.segments ∧ ¬Clashes r.segments r'.segments

theorem Compatible.symm (h : Compatible r r') : Compatible r' r :=
  ⟨h.1.symm, fun hc => h.2 hc.symm⟩

/-- The patterns can be read, and any two of them are compatible. -/
structure Admissible (rs : List (Route ε)) : Prop where
  read : ∀ r ∈ rs, Pattern.read r.pattern = .ok r.segments
  compatible : rs.Pairwise Compatible

theorem Admissible.perm (h : Admissible rs) (hperm : rs.Perm rs') : Admissible rs' where
  read r hr := h.read r (hperm.mem_iff.2 hr)
  compatible := (hperm.pairwise_iff Compatible.symm).1 h.compatible

theorem Admissible.sublist (h : Admissible rs) (hsub : rs'.Sublist rs) : Admissible rs' where
  read r hr := h.read r (hsub.subset hr)
  compatible := h.compatible.sublist hsub

theorem admissible_concat : Admissible (rs ++ [r]) ↔
    Admissible rs ∧ Pattern.read r.pattern = .ok r.segments ∧ ∀ r' ∈ rs, Compatible r' r := by
  constructor
  · rintro ⟨hread, hcompatible⟩
    obtain ⟨hread, hr⟩ := List.forall_mem_append.1 hread
    obtain ⟨hcompatible, -, hlast⟩ := List.pairwise_append.1 hcompatible
    refine ⟨⟨hread, hcompatible⟩, hr r (List.mem_singleton_self r), ?_⟩
    intro r' hr'
    exact hlast r' hr' r (List.mem_singleton_self r)
  · rintro ⟨⟨hread, hcompatible⟩, hr, hlast⟩
    constructor
    · exact List.forall_mem_append.2 ⟨hread, List.forall_mem_singleton.2 hr⟩
    · refine List.pairwise_append.2 ⟨hcompatible, List.pairwise_singleton _ _, ?_⟩
      intro r' hr'
      exact List.forall_mem_singleton.2 (hlast r' hr')

theorem Admissible.fault?_eq_none (h : Admissible (rs ++ [r])) (hclear : Clear rs) :
    fault? rs [] r.segments = none := by
  obtain ⟨-, -, hr⟩ := admissible_concat.1 h
  have hjudged : Judged rs r.segments (fault? rs [] r.segments) := hclear.judged (.inl rfl)
  cases hf : fault? rs [] r.segments with
  | none => rfl
  | some fault =>
    rw [hf] at hjudged
    cases hjudged with
    | taken same _ =>
      obtain ⟨r', hr', he⟩ := same
      exact absurd he (hr r' hr').1
    | conflict _ clash _ =>
      obtain ⟨r', hr', hc⟩ := clash
      exact absurd hc (hr r' hr').2

end Routes

namespace Tree

open Routes

variable {ε : Type} {t t' : Tree ε} {r : Route ε} {calls calls' : List (Route ε)}

theorem Reachable.add (h : t.Reachable) {pattern : Text} {endpoint : ε}
    (hadd : t.add pattern endpoint = .ok t') : t'.Reachable := by
  have h' := h.attempt ⟨pattern, endpoint⟩
  rwa [Tree.attempt, hadd] at h'

/-- The routes of a tree could be registered in any order. -/
theorem Reachable.admissible (h : t.Reachable) : Admissible t.routes where
  read := h.sound.read
  compatible := (List.pairwise_map.1 h.sound.distinct).imp_of_mem fun hr hr' hne =>
    ⟨hne, h.clear _ hr _ hr'⟩

/-- Register routes one by one, all or none. -/
def addAll (t : Tree ε) (calls : List (Route ε)) : Except Rejection (Tree ε) :=
  calls.foldlM (fun t r => t.add r.pattern r.endpoint) t

theorem addAll_cons_eq_ok : t.addAll (r :: calls) = .ok t' ↔
    ∃ t₁, t.add r.pattern r.endpoint = .ok t₁ ∧ t₁.addAll calls = .ok t' := by
  rw [addAll, List.foldlM_cons]
  exact bind_eq_ok

theorem Reachable.addAll (h : t.Reachable) (hall : t.addAll calls = .ok t') : t'.Reachable := by
  induction calls generalizing t with
  | nil =>
    cases hall
    exact h
  | cons r calls ih =>
    obtain ⟨t₁, hadd, hall⟩ := addAll_cons_eq_ok.1 hall
    exact ih (h.add hadd) hall

theorem addAll_eq_ok (h : t.addAll calls = .ok t') :
    ∃ root, t' = { t with root, routes := t.routes ++ calls } := by
  induction calls generalizing t with
  | nil =>
    cases h
    exact ⟨t'.root, by rw [List.append_nil]⟩
  | cons r calls ih =>
    obtain ⟨t₁, hadd, hall⟩ := addAll_cons_eq_ok.1 h
    obtain ⟨root, ss, rfl, -, -⟩ := add_eq_ok hadd
    obtain ⟨root', rfl⟩ := ih hall
    exact ⟨root', by simp⟩

theorem Reachable.exists_add (h : t.Reachable) (ha : Admissible (t.routes ++ [r])) :
    ∃ t₁, t.add r.pattern r.endpoint = .ok t₁ := by
  have hread := ha.read r (by simp)
  obtain ⟨root, hadd⟩ := h.sound.add_of_no_fault r.endpoint hread (ha.fault?_eq_none h.clear)
  exact ⟨_, hadd⟩

/-- Routes can be registered one by one just when they are admissible together with those that are
there. -/
theorem Reachable.exists_addAll (h : t.Reachable) :
    (∃ t', t.addAll calls = .ok t') ↔ Admissible (t.routes ++ calls) := by
  constructor
  · rintro ⟨t', hall⟩
    have h' := (h.addAll hall).admissible
    obtain ⟨root, rfl⟩ := addAll_eq_ok hall
    exact h'
  · intro ha
    induction calls generalizing t with
    | nil => exact ⟨t, rfl⟩
    | cons r calls ih =>
      -- what is admissible with all of the routes is so with those that are there by now
      have hr : (t.routes ++ [r]).Sublist (t.routes ++ r :: calls) := by simp
      obtain ⟨t₁, hadd⟩ := h.exists_add (ha.sublist hr)
      have h₁ := h.add hadd
      obtain ⟨t', hall⟩ : ∃ t', t₁.addAll calls = .ok t' := by
        obtain ⟨root, ss, rfl, -, -⟩ := add_eq_ok hadd
        exact ih h₁ (by simpa using ha)
      exact ⟨t', addAll_cons_eq_ok.2 ⟨t₁, hadd, hall⟩⟩

end Tree

end PathRouting
