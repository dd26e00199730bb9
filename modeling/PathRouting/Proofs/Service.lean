import Mathlib.Data.List.Basic
import Mathlib.Data.List.Induction
import PathRouting.Regex.Match
import PathRouting.Service

/-! # All or nothing

Whatever a service is asked to do, it answers by the router of the last load that succeeded, built
from what was in the file at that time.  A load that fails could have been left out, and a router
that was kept answers as it did when it was kept.
-/

namespace PathRouting

namespace Service

variable {settings : Settings} {path : Text} {s : Service} {step : Step}
  {before after front back : List Step}

/-! ## What the steps before tell -/

/-- What there is to read after a step. -/
def Step.leaves (path : Text) (file : Except FileFault Text) : Step → Except FileFault Text
  | .write t => .ok t
  | .writeBytes bytes => Files.decode bytes
  | .delete => Files.ofList [] path
  | _ => file

/-- What there is to read after some steps, of which the latest comes first. -/
def fileAfter (path : Text) : List Step → Except FileFault Text
  | [] => Files.ofList [] path
  | step :: earlier => step.leaves path (fileAfter path earlier)

def Step.loads : Step → Bool
  | .load => true
  | .reload => true
  | _ => false

def Step.keeps : Step → Bool
  | .keep => true
  | _ => false

/-- What the answer to a request is when it goes to a router. -/
def answered (router : Option (Router Controller)) (elapsed : Nat) (method : Method)
    (request : Text) : Answer :=
  .routed (router.map fun r => (r.route elapsed method request).value)

theorem value_answer (router : Option (Router Controller)) (elapsed : Nat) (method : Method)
    (request : Text) :
    (answer router elapsed method request).value = answered router elapsed method request := by
  cases router <;> rfl

theorem adopt_eq (s : Service) (result : Except LoadError (Router Controller)) :
    s.adopt result = { s with current := result.toOption.or s.current } := by
  cases result <;> rfl

section

variable [Engine]

/-- The router loaded from what there is to read, if it can be loaded. -/
def fresh (settings : Settings) (path : Text) (file : Except FileFault Text) :
    Option (Router Controller) :=
  (Router.load settings path file).value.toOption

/-- The router of the last load that succeeded, built from what was in the file then; the latest
step comes first. -/
def lastLoaded (settings : Settings) (path : Text) : List Step → Option (Router Controller)
  | [] => none
  | step :: earlier =>
    if step.loads then
      (fresh settings path (fileAfter path earlier)).or (lastLoaded settings path earlier)
    else lastLoaded settings path earlier

/-! ## One step -/

theorem step_of_loads (h : step.loads = true) :
    (s.step step).value = (s.adopt s.attempt.value, .loaded s.attempt.value) := by
  cases step with
  | load => rfl
  | reload =>
    simp only [Service.step, bind]
    split <;> rfl
  | _ => cases h

/-- All that a step changes: only a load that succeeds changes the router. -/
theorem service_step (s : Service) (step : Step) : (s.step step).value.1 =
    { s with
      file := step.leaves s.path s.file
      current :=
        if step.loads then (fresh s.settings s.path s.file).or s.current else s.current
      kept := if step.keeps then s.kept ++ [s.current] else s.kept } := by
  cases step with
  | load =>
    rw [step_of_loads rfl, adopt_eq]
    rfl
  | reload =>
    rw [step_of_loads rfl, adopt_eq]
    rfl
  | _ => rfl

/-! ## A whole run -/

/-- What is known of a service after some steps from its start. -/
structure After (settings : Settings) (path : Text) (steps : List Step) (s : Service) : Prop where
  settings_eq : s.settings = settings
  path_eq : s.path = path
  file_eq : s.file = fileAfter path steps.reverse
  current_eq : s.current = lastLoaded settings path steps.reverse
  length_kept : s.kept.length = steps.countP Step.keeps
  kept_eq : ∀ front back, steps = front ++ .keep :: back →
    s.kept[front.countP Step.keeps]? = some (lastLoaded settings path front.reverse)

theorem after_start : After settings path [] (start settings path) where
  settings_eq := rfl
  path_eq := rfl
  file_eq := rfl
  current_eq := rfl
  length_kept := rfl
  kept_eq front back h := by simp at h

theorem After.next {steps : List Step} (h : After settings path steps s) (step : Step) :
    After settings path (steps ++ [step]) (s.step step).value.1 where
  settings_eq := by
    rw [service_step]
    exact h.settings_eq
  path_eq := by
    rw [service_step]
    exact h.path_eq
  file_eq := by
    rw [service_step, List.reverse_concat, fileAfter, ← h.file_eq, ← h.path_eq]
  current_eq := by
    rw [service_step, List.reverse_concat, lastLoaded, ← h.current_eq, ← h.file_eq, ← h.path_eq,
      ← h.settings_eq]
  length_kept := by
    rw [service_step, List.countP_append, ← h.length_kept]
    cases hkeeps : step.keeps <;> simp [hkeeps]
  kept_eq front back he := by
    rw [service_step]
    rcases back.eq_nil_or_concat' with rfl | ⟨back, last, rfl⟩
    · -- the step is the one that keeps
      obtain ⟨rfl, hlast⟩ := List.append_inj' he rfl
      obtain rfl := List.singleton_inj.1 hlast
      change (s.kept ++ [s.current])[_]? = _
      rw [← h.length_kept, List.getElem?_concat_length, h.current_eq]
    · rw [← List.cons_append, ← List.append_assoc] at he
      obtain ⟨rfl, -⟩ := List.append_inj' he rfl
      have hkept := h.kept_eq front back rfl
      dsimp only
      split
      · rw [List.getElem?_append_left (List.getElem?_eq_some_iff.1 hkept).1, hkept]
      · exact hkept

theorem run_cons (s : Service) (step : Step) (steps : List Step) :
    s.run (step :: steps) = (((s.step step).value.1.run steps).1,
      (s.step step).value.2 :: ((s.step step).value.1.run steps).2) := rfl

theorem run_append (s : Service) (before after : List Step) :
    s.run (before ++ after) = (((s.run before).1.run after).1,
      (s.run before).2 ++ ((s.run before).1.run after).2) := by
  induction before generalizing s with
  | nil => rfl
  | cons step before ih =>
    rw [List.cons_append, run_cons, ih]
    rfl

theorem length_run (s : Service) (steps : List Step) : (s.run steps).2.length = steps.length := by
  induction steps generalizing s with
  | nil => rfl
  | cons step steps ih => exact congrArg (· + 1) (ih _)

theorem after_run (settings : Settings) (path : Text) (steps : List Step) :
    After settings path steps ((start settings path).run steps).1 := by
  induction steps using List.reverseRecOn with
  | nil => exact after_start
  | append_singleton steps step ih =>
    rw [run_append]
    exact ih.next step

/-- The answer to a step in the middle of a run is what the service answers after those before. -/
theorem getElem?_run (s : Service) (before after : List Step) (step : Step) :
    (s.run (before ++ step :: after)).2[before.length]? =
      some ((s.run before).1.step step).value.2 := by
  have hlen := length_run s before
  rw [run_append, List.getElem?_append_right (Nat.le_of_eq hlen), hlen, Nat.sub_self]
  rfl

/-- A step that leaves the service as it is can be left out of a run. -/
theorem eraseIdx_run (h : ((s.run before).1.step step).value.1 = (s.run before).1) :
    (s.run (before ++ step :: after)).2.eraseIdx before.length = (s.run (before ++ after)).2 := by
  have hlen := length_run s before
  rw [run_append, run_append, List.eraseIdx_append_of_length_le (Nat.le_of_eq hlen), hlen,
    Nat.sub_self, run_cons, h]
  rfl

theorem After.kept_last {s : Service} (h : After settings path (front ++ .keep :: back) s)
    (hback : ∀ step ∈ back, step.keeps = false) :
    s.kept.getLast? = some (lastLoaded settings path front.reverse) := by
  have hnone : back.countP Step.keeps = 0 := by simpa [List.countP_eq_zero] using hback
  have hlen : s.kept.length - 1 = front.countP Step.keeps := by
    rw [h.length_kept, List.countP_append, List.countP_cons_of_pos rfl, hnone]
    rfl
  rw [List.getLast?_eq_getElem?, hlen]
  exact h.kept_eq front back rfl

/-- In every run, requests are answered by the router of the last load before that succeeded, built
from what was in the file at that time.  A load that fails, for whatever reason, changes no other
answer.  What was kept answers by the router that was current then, whatever follows. -/
theorem answers_by_last_load (settings : Settings) (path : Text) (before after : List Step) :
    let answers := fun steps => ((start settings path).run steps).2
    (∀ elapsed method request,
      (answers (before ++ .route elapsed method request :: after))[before.length]? =
        some (answered (lastLoaded settings path before.reverse) elapsed method request)) ∧
    (∀ step, step.loads = true → ∃ result,
      (answers (before ++ step :: after))[before.length]? = some (.loaded result) ∧
      result.toOption = fresh settings path (fileAfter path before.reverse) ∧
      ∀ e, result = .error e →
        (answers (before ++ step :: after)).eraseIdx before.length = answers (before ++ after)) ∧
    ∀ front back, before = front ++ .keep :: back → ∀ elapsed method request,
      let kept := answered (lastLoaded settings path front.reverse) elapsed method request
      (answers (before ++ .routeKeptAs (front.countP Step.keeps) elapsed method request ::
        after))[before.length]? = some kept ∧
      ((∀ step ∈ back, step.keeps = false) →
        (answers (before ++ .routeKept elapsed method request :: after))[before.length]? =
          some kept) := by
  intro answers
  have h := after_run settings path before
  refine ⟨fun elapsed method request => ?_, fun step hloads => ?_, ?_⟩
  · have hanswer := getElem?_run (start settings path) before after (.route elapsed method request)
    rw [hanswer, ← h.current_eq, ← value_answer]
    rfl
  · have hanswer := getElem?_run (start settings path) before after step
    rw [step_of_loads hloads] at hanswer
    refine ⟨_, hanswer, ?_, fun e he => eraseIdx_run ?_⟩
    · rw [attempt, h.settings_eq, h.path_eq, h.file_eq]
      rfl
    · rw [step_of_loads hloads, he]
      rfl
  · rintro front back rfl elapsed method request kept
    constructor
    · rw [getElem?_run]
      change some (answer _ elapsed method request).value = _
      rw [h.kept_eq front back rfl, value_answer]
      rfl
    · intro hback
      rw [getElem?_run]
      change some (answer _ elapsed method request).value = _
      rw [h.kept_last hback, value_answer]
      rfl

end

def pageTable : Text :=
  "[[routes]]\npattern = \"/page\"\ncontroller = \"web\"\n[controllers.web]\n".toList

/-- The table of the page without its controller. -/
def orphanTable : Text := "[[routes]]\npattern = \"/page\"\ncontroller = \"web\"\n".toList

def page : Match Controller := ⟨⟨"/page".toList, .of "web".toList⟩, ∅, none⟩

/-- A router of the page is loaded and kept, then its table loses the controller. -/
def orphaning : List Step := [.write pageTable, .load, .keep, .write orphanTable]

/-- The page is still there after a reload that fails, and for whoever kept the router. -/
theorem page_outlives_reload :
    let settings : Settings := ⟨Router.usualThreshold, none⟩
    let answers := fun steps => ((start settings "routes.toml".toList).run steps).2
    let request : Step := .route 0 .get "/page".toList
    (Step.reload.loads = true ∧
      ∃ e, (answers (orphaning ++ .reload :: [request]))[orphaning.length]? =
          some (.loaded (.error e)) ∧
        (answers (orphaning ++ .reload :: [request])).eraseIdx orphaning.length =
          answers (orphaning ++ [request])) ∧
      (answers (orphaning ++ [request]))[orphaning.length]? =
        some (.routed (some (.matched page))) ∧
      orphaning = [.write pageTable, .load] ++ .keep :: [.write orphanTable] ∧
      (∀ step ∈ [Step.write orphanTable], step.keeps = false) ∧
      (answers (orphaning ++ [.routeKept 0 .get "/page".toList]))[orphaning.length]? =
        some (.routed (some (.matched page))) := by
  intro settings answers request
  have hloads : Step.reload.loads = true := rfl
  have hkept : orphaning = [.write pageTable, .load] ++ .keep :: [.write orphanTable] := rfl
  have hback : ∀ step ∈ [Step.write orphanTable], step.keeps = false :=
    List.forall_mem_singleton.2 rfl
  have hfile : fileAfter "routes.toml".toList orphaning.reverse = .ok orphanTable := rfl
  have hstale : fresh settings "routes.toml".toList (.ok orphanTable) = none := by
    decide +kernel
  have hpage : ∀ steps ∈ [orphaning, [.write pageTable, .load]],
      answered (lastLoaded settings "routes.toml".toList steps.reverse) 0 .get "/page".toList =
        .routed (some (.matched page)) := by
    intro steps hsteps
    apply congrArg Answer.routed
    revert steps
    decide +kernel
  obtain ⟨-, hload, -⟩ :=
    answers_by_last_load settings "routes.toml".toList orphaning [request]
  obtain ⟨hroute, -, hkeep⟩ := answers_by_last_load settings "routes.toml".toList orphaning []
  refine ⟨⟨hloads, ?_⟩, ?_, hkept, hback, ?_⟩
  · obtain ⟨result, hanswer, hresult, herase⟩ := hload .reload hloads
    rw [hfile, hstale] at hresult
    rcases result with e | r
    · exact ⟨e, hanswer, herase e rfl⟩
    · cases hresult
  · rw [hroute, hpage _ (by simp)]
  · rw [(hkeep _ _ hkept 0 .get "/page".toList).2 hback, hpage _ (by simp)]

end Service

end PathRouting
