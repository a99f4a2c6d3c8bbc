import Mathlib
import Recode.Proofs.Observation

/-!
# The first implementation that opens

The search for an implementation runs through look-ups and keeps what failed so far,
both to skip what was tried already and to report the last failure. What it amounts to
can be said without either. The look-ups find candidates, of which those are left out
that go by the name of an earlier one. The candidates are tried in order, up to the
first that opens.

A search is observed with a record of its probes. Whether an implementation opens may
depend on everything that happened before, and only the record tells what became of an
attempt. What a look-up finds depends on the look-up alone.

The induction is on the look-ups that are left. The names in the list of failures are
those that later candidates must not have.

## Main definitions

* `Probe`: A look-up or an attempt to open, with its answer.
* `candidates`: What the look-ups find, each name once.
* `Searched`: How a search went.

## Theorems

* `selectFrom_searched`: A search goes through the candidates that are left.
* `select_tries`: Choosing tries the candidates in order until one opens.
-/

namespace Recode

open Act

variable {σ ι γ : Type}

/-- A step of a search, with its answer. -/
inductive Probe (ι γ : Type) where
  | look (lookup : Lookup) (answer : Option ι)
  | attempt (implementation : ι) (answer : Except Cause γ)
deriving DecidableEq

/-- The look-ups of a search, in order. -/
def Probe.lookups (probes : List (Probe ι γ)) : List Lookup :=
  probes.filterMap fun
    | .look lookup _ => some lookup
    | .attempt .. => none

/-- The attempts of a search, in order. -/
def Probe.attempts (probes : List (Probe ι γ)) : List (ι × Except Cause γ) :=
  probes.filterMap fun
    | .look .. => none
    | .attempt implementation answer => some (implementation, answer)

/-- What the look-ups find, in order. What goes by the name of something found before is
    left out. -/
def candidates (name : ι → String) (found : Lookup → Option ι) (lookups : List Lookup) : List ι :=
  (lookups.filterMap found).eraseDupsBy fun later earlier => name later == name earlier

/-- The failures among some attempts, under the names of the implementations, the last one
    in front. -/
def failuresOf (name : ι → String) : List (ι × Except Cause γ) → Failures
  | [] => []
  | (implementation, .error cause) :: attempts =>
    failuresOf name attempts ++ [(name implementation, cause)]
  | (_, .ok _) :: attempts => failuresOf name attempts

theorem failuresOf_snoc (name : ι → String) (attempts : List (ι × Except Cause γ))
    (implementation : ι) (cause : Cause) :
    failuresOf name (attempts ++ [(implementation, .error cause)])
      = (name implementation, cause) :: failuresOf name attempts := by
  induction attempts with
  | nil => rfl
  | cons attempt attempts ih =>
      rcases attempt with ⟨earlier, earlierCause | context⟩
      · simp only [List.cons_append, failuresOf, ih]
      · simp only [List.cons_append, failuresOf, ih]

/-- The outcome of a search through some implementations, judged by its probes. An outcome that
    is an opened context is what the last probe of all yielded, and no attempt before it
    succeeded. A failure is that of the last of the implementations, after all of them failed. -/
def Selection.SettledBy (name : ι → String) (implementations : List ι)
    (probes : List (Probe ι γ)) : Selection γ → Prop
  | .opened context implementation =>
    ∃ failed chosen, Probe.attempts probes = failed ++ [(chosen, .ok context)]
      ∧ (∀ attempt ∈ failed, attempt.2.isOk = false)
      ∧ implementation = name chosen
      ∧ probes.getLast? = some (.attempt chosen (.ok context))
  | .initFailed implementation cause =>
    (∀ attempt ∈ Probe.attempts probes, attempt.2.isOk = false)
      ∧ (Probe.attempts probes).map Prod.fst = implementations
      ∧ ∃ failed last, Probe.attempts probes = failed ++ [(last, .error cause)]
        ∧ implementation = name last
  | .unavailable => Probe.attempts probes = []

/-- How a search went that had these look-ups and candidates before it and these failures
    behind it. -/
inductive Searched (name : ι → String) (lookups : List Lookup) (candidates : List ι)
    (failures : Failures) : List (Probe ι γ) → Selection γ → Prop where
  /-- A candidate opened, and that was the last probe. -/
  | opened (before : List (Probe ι γ)) (chosen : ι) (context : γ)
      (failed : ∀ attempt ∈ Probe.attempts before, attempt.2.isOk = false)
      (inOrder : (Probe.attempts before).map Prod.fst ++ [chosen] <+: candidates)
      (looked : Probe.lookups before <+: lookups) :
      Searched name lookups candidates failures (before ++ [.attempt chosen (.ok context)])
        (.opened context (name chosen))
  /-- Nothing opened. -/
  | exhausted (probes : List (Probe ι γ))
      (failed : ∀ attempt ∈ Probe.attempts probes, attempt.2.isOk = false)
      (inOrder : (Probe.attempts probes).map Prod.fst = candidates)
      (looked : Probe.lookups probes = lookups) :
      Searched name lookups candidates failures probes
        (Failures.outcome (failuresOf name (Probe.attempts probes) ++ failures))

namespace Searched

variable {name : ι → String} {lookups : List Lookup} {cands : List ι} {failures : Failures}
  {probes : List (Probe ι γ)} {selection : Selection γ} {lookup : Lookup} {answer : Option ι}

/-- A look-up may come first that leads to no attempt. -/
theorem look (h : Searched name lookups cands failures probes selection) :
    Searched name (lookup :: lookups) cands failures (.look lookup answer :: probes)
      selection := by
  cases h with
  | opened before chosen context failed inOrder looked =>
      exact .opened (.look lookup answer :: before) chosen context failed inOrder
        (List.cons_prefix_cons.mpr ⟨rfl, looked⟩)
  | exhausted probes failed inOrder looked =>
      exact .exhausted (.look lookup answer :: probes) failed inOrder
        (congrArg (lookup :: ·) looked)

/-- A candidate may come first that fails to open. -/
theorem fail {first : ι} {cause : Cause}
    (h : Searched name lookups cands ((name first, cause) :: failures) probes selection) :
    Searched name lookups (first :: cands) failures (.attempt first (.error cause) :: probes)
      selection := by
  cases h with
  | opened before chosen context failed inOrder looked =>
      exact .opened (.attempt first (.error cause) :: before) chosen context
        (List.forall_mem_cons.mpr ⟨rfl, failed⟩) (List.cons_prefix_cons.mpr ⟨rfl, inOrder⟩) looked
  | exhausted probes failed inOrder looked =>
      -- Its failure is behind those that came later and before those that were there already.
      rw [List.append_cons]
      exact .exhausted (.attempt first (.error cause) :: probes)
        (List.forall_mem_cons.mpr ⟨rfl, failed⟩) (congrArg (first :: ·) inOrder) looked

end Searched

namespace Searched

variable {name : ι → String} {lookups : List Lookup} {cands : List ι}
  {before probes : List (Probe ι γ)} {selection : Selection γ}

theorem attempts_success (before : List (Probe ι γ)) (chosen : ι) (context : γ) :
    Probe.attempts (before ++ [.attempt chosen (.ok context)])
      = Probe.attempts before ++ [(chosen, .ok context)] :=
  List.filterMap_append

theorem lookups_success (before : List (Probe ι γ)) (chosen : ι) (context : γ) :
    Probe.lookups (before ++ [.attempt chosen (.ok context)]) = Probe.lookups before :=
  List.filterMap_append.trans (List.append_nil _)

/-- What was tried is the first of what there was to try. -/
theorem attempts_prefix (h : Searched name lookups cands [] probes selection) :
    (Probe.attempts probes).map Prod.fst <+: cands := by
  cases h with
  | opened before chosen context failed inOrder looked =>
      rw [attempts_success, List.map_append]
      exact inOrder
  | exhausted probes failed inOrder looked => exact inOrder ▸ List.prefix_refl _

theorem lookups_prefix (h : Searched name lookups cands [] probes selection) :
    Probe.lookups probes <+: lookups := by
  cases h with
  | opened before chosen context failed inOrder looked =>
      rw [lookups_success]
      exact looked
  | exhausted probes failed inOrder looked => exact looked ▸ List.prefix_refl _

/-- As long as nothing opens, the look-ups go on. -/
theorem lookups_eq (h : Searched name lookups cands [] probes selection)
    (hopened : ∀ context implementation, selection ≠ .opened context implementation) :
    Probe.lookups probes = lookups := by
  cases h with
  | opened before chosen context failed inOrder looked => exact absurd rfl (hopened _ _)
  | exhausted probes failed inOrder looked => exact looked

/-- A search that has only failures behind it ends with the last of them, if there is one. -/
theorem outcome_eq (name : ι → String) {attempts : List (ι × Except Cause γ)}
    (hfailed : ∀ attempt ∈ attempts, attempt.2.isOk = false) :
    (attempts = [] ∧ (failuresOf name attempts).outcome (γ := γ) = .unavailable)
      ∨ ∃ earlier last cause, attempts = earlier ++ [(last, .error cause)]
        ∧ (failuresOf name attempts).outcome (γ := γ) = .initFailed (name last) cause := by
  -- From the back, since the last attempt is the one that counts.
  rcases List.eq_nil_or_concat attempts with rfl | ⟨earlier, ⟨last, cause | context⟩, rfl⟩
  · exact .inl ⟨rfl, rfl⟩
  · refine .inr ⟨earlier, last, cause, List.concat_eq_append, ?_⟩
    rw [List.concat_eq_append, failuresOf_snoc]
    rfl
  · have hok := hfailed (last, .ok context) (by simp)
    cases hok

/-- Nothing is available exactly if there are no candidates. -/
theorem unavailable_iff (h : Searched name lookups cands [] probes selection) :
    selection = .unavailable ↔ cands = [] := by
  cases h with
  | opened before chosen context failed inOrder looked =>
      refine ⟨fun heq => (nomatch heq), fun hnone => ?_⟩
      -- A candidate that opened was one of them.
      rw [hnone, List.prefix_nil] at inOrder
      simp at inOrder
  | exhausted probes failed inOrder looked =>
      rw [List.append_nil, ← inOrder, List.map_eq_nil_iff]
      rcases outcome_eq name failed with ⟨hnil, houtcome⟩ | ⟨_, _, _, hlast, houtcome⟩
      · rw [houtcome, hnil]
        simp
      · rw [houtcome, hlast]
        simp

/-- The attempts tell the outcome. -/
theorem settledBy (h : Searched name lookups cands [] probes selection) :
    selection.SettledBy name cands probes := by
  cases h with
  | opened before chosen context failed inOrder looked =>
      exact ⟨_, chosen, attempts_success before chosen context, failed, rfl,
        List.getLast?_concat⟩
  | exhausted probes failed inOrder looked =>
      rw [List.append_nil]
      -- All attempts have failed, so the last of them tells the outcome, if there was one.
      rcases outcome_eq name failed with
        ⟨hnil, houtcome⟩ | ⟨earlier, last, cause, hlast, houtcome⟩
      · rw [houtcome]
        exact hnil
      · rw [houtcome]
        exact ⟨failed, inOrder, earlier, last, hlast, rfl⟩

end Searched

/-- The candidates that are left when some names have been tried. -/
def candidatesBut (name : ι → String) (found : Lookup → Option ι) (tried : List String)
    (lookups : List Lookup) : List ι :=
  ((lookups.filterMap found).filter fun i => name i ∉ tried).eraseDupsBy
    fun later earlier => name later == name earlier

/-- Before anything was tried, all candidates are left. -/
theorem candidatesBut_nil (name : ι → String) (found : Lookup → Option ι) (lookups : List Lookup) :
    candidatesBut name found [] lookups = candidates name found lookups := by
  simp [candidatesBut, candidates]

section

variable {name : ι → String} {found : Lookup → Option ι} {tried : List String} {lookup : Lookup}
  {lookups : List Lookup}

theorem candidatesBut_of_none (h : found lookup = none) :
    candidatesBut name found tried (lookup :: lookups)
      = candidatesBut name found tried lookups := by
  rw [candidatesBut, List.filterMap_cons_none h, candidatesBut]

theorem candidatesBut_of_tried {i : ι} (h : found lookup = some i) (htried : name i ∈ tried) :
    candidatesBut name found tried (lookup :: lookups)
      = candidatesBut name found tried lookups := by
  rw [candidatesBut, List.filterMap_cons_some h, List.filter_cons_of_neg, candidatesBut]
  simpa using htried

/-- A new candidate is the next one, and from there on its name counts as tried. -/
theorem candidatesBut_of_new {i : ι} (h : found lookup = some i) (hnew : name i ∉ tried) :
    candidatesBut name found tried (lookup :: lookups)
      = i :: candidatesBut name found (name i :: tried) lookups := by
  rw [candidatesBut, List.filterMap_cons_some h, List.filter_cons_of_pos (by simpa using hnew),
    List.eraseDupsBy_cons, List.filter_filter, candidatesBut]
  congr 2
  -- What the two filters leave out together is the names of the longer list.
  refine List.filter_congr fun j _ => ?_
  by_cases hname : name j = name i <;> simp [hname]

end

/-- A search goes through the candidates that are left, in order, until one opens. -/
theorem selectFrom_searched (codec : Codec) (find : Lookup → Act σ (Option ι)) (name : ι → String)
    (attempt : ι → Act σ (Except Cause γ)) (found : Lookup → Option ι)
    (hfind : ∀ lookup w, (find lookup w).value = found lookup) (failures : Failures)
    (lookups : List Lookup) :
    Observes
      (selectFrom codec (fun l => (find l).recorded (.look l)) name
        (fun i => (attempt i).recorded (.attempt i)) failures lookups)
      (selectFrom codec find name attempt failures lookups)
      (Searched name lookups (candidatesBut name found (failures.map Prod.fst) lookups)
        failures) := by
  -- Three things can become of a look-up: nothing is found, a name is found again, or there is a
  -- new candidate. Only the last is tried.
  induction lookups generalizing failures with
  | nil =>
      refine .pure ?_
      exact .exhausted [] (List.forall_mem_nil _) rfl rfl
  | cons lookup lookups ih =>
      rw [selectFrom, selectFrom]
      refine .bind_recorded fun w => ?_
      rw [hfind]
      cases hfound : found lookup with
      | none =>
          rw [candidatesBut_of_none hfound]
          exact (ih failures).mono fun probes selection h => h.look
      | some i =>
          by_cases htried : (failures.map Prod.fst).contains (name i) = true
          · simp only [if_pos htried]
            rw [candidatesBut_of_tried hfound (List.contains_iff_mem.mp htried)]
            exact (ih failures).mono fun probes selection h => h.look
          · simp only [if_neg htried]
            rw [candidatesBut_of_new hfound (mt List.contains_iff_mem.mpr htried)]
            refine .bind_recorded fun w' => ?_
            cases hopened : (attempt i w').value with
            | ok context =>
                refine .bind_note _ (.pure (.look ?_))
                -- It opened, so the record ends here.
                exact .opened [] i context (List.forall_mem_nil _)
                  (List.cons_prefix_cons.mpr ⟨rfl, List.nil_prefix⟩) List.nil_prefix
            | error cause =>
                refine .bind_note _ ?_
                -- It failed, and its name is out from here on.
                exact (ih ((name i, cause) :: failures)).mono fun probes selection h =>
                  h.fail.look

/-- Choosing tries the candidates in order until one opens, and none twice. What is looked up
    is found by `found`, whereas opening may depend on all that happened before. The attempts
    are the candidates up to the first that opens, or all of them. In the first case that
    candidate is the outcome and nothing is asked behind it. In the second the outcome is the
    last failure, unless there are no candidates at all. -/
theorem select_tries (codec : Codec) (preferred : List String)
    (find : Lookup → Act σ (Option ι)) (name : ι → String) (attempt : ι → Act σ (Except Cause γ))
    (found : Lookup → Option ι) (hfind : ∀ lookup w, (find lookup w).value = found lookup) :
    Observes
      (select codec preferred (fun l => (find l).recorded (.look l)) name
        (fun i => (attempt i).recorded (.attempt i)))
      (select codec preferred find name attempt)
      fun probes selection =>
        let implementations := candidates name found (lookups codec preferred)
        let attempts := Probe.attempts probes
        attempts.map Prod.fst <+: implementations
          ∧ selection.SettledBy name implementations probes
          ∧ (selection = .unavailable ↔ implementations = [])
          ∧ Probe.lookups probes <+: lookups codec preferred
          ∧ ((∀ context implementation, selection ≠ .opened context implementation) →
            Probe.lookups probes = lookups codec preferred) := by
  have hsearch := selectFrom_searched codec find name attempt found hfind []
    (lookups codec preferred)
  -- At the beginning no name has been tried.
  rw [List.map_nil, candidatesBut_nil] at hsearch
  exact hsearch.mono fun probes selection h =>
    ⟨h.attempts_prefix, h.settledBy, h.unavailable_iff, h.lookups_prefix, h.lookups_eq⟩

/-- Two names lead to one implementation, and only the first attempt of all fails. The second
    name is not tried, although it would open now. -/
theorem select_tries_alias :
    let found : Lookup → Option String := fun lookup =>
      [(.name "hevc_nvenc", "nvenc"), (.name "hevc_cuvid", "nvenc"), (.codec .h265, "hevc")].lookup
        lookup
    let attempt : String → Act Nat (Except Cause Nat) := fun _ tries =>
      ⟨if tries = 0 then .error ⟨"busy", []⟩ else .ok tries, [], tries + 1⟩
    let searched := select .h265 ["hevc_nvenc", "hevc_cuvid"]
      (fun l => (pure (found l) : Act Nat _).recorded (.look l)) id
      (fun i => (attempt i).recorded (.attempt i)) ([], 0)
    (Probe.attempts searched.world.1).map Prod.fst <+: ["nvenc", "hevc"]
      ∧ searched.value = .opened 1 "hevc"
      ∧ searched.world.1.getLast? = some (.attempt "hevc" (.ok 1)) := by
  intro found attempt searched
  have hcandidates : candidates id found (lookups .h265 ["hevc_nvenc", "hevc_cuvid"])
      = ["nvenc", "hevc"] := by decide
  have hvalue : (select .h265 ["hevc_nvenc", "hevc_cuvid"] (fun l => (pure (found l) : Act Nat _))
      id attempt 0).value = .opened 1 "hevc" := rfl
  rcases select_tries .h265 ["hevc_nvenc", "hevc_cuvid"] (fun l => (pure (found l) : Act Nat _)) id
    attempt found (fun _ _ => rfl) [] 0 with ⟨probes, hsearched, hbegins, hsettled, -⟩
  rw [hcandidates] at hbegins
  rw [hvalue] at hsettled hsearched
  -- The outcome says what was opened, and so how the record ends.
  rcases hsettled with ⟨_, chosen, -, -, rfl, hlast⟩
  simp only [searched, hsearched]
  exact ⟨hbegins, trivial, hlast⟩

end Recode
