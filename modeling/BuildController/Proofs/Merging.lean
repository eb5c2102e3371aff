import BuildController.Concern.Spec
import BuildController.TaskRunPlan
import Mathlib.Data.List.Forall2

/-! What merging leaves of each name. An override takes the place of the first entry of its name and
of no other one, so a name that the base repeats keeps its later entries, and the names of the base
stay in their places. The environment of a step comes from two merges in a row, and the second lets
the last entry win: a variable that the build repeats reaches the steps with the value of the build,
whatever the run sets. -/
namespace BuildController

variable {nameOf : α → String} {name : String}

/-- The entries of a name, in their order. -/
def entriesOf (nameOf : α → String) (name : String) (entries : List α) : List α :=
  entries.filter fun entry => nameOf entry = name

theorem entriesOf_cons_same (same : nameOf entry = name) :
    entriesOf nameOf name (entry :: entries) = entry :: entriesOf nameOf name entries := by
  simp [entriesOf, same]

theorem entriesOf_cons_other (other : nameOf entry ≠ name) :
    entriesOf nameOf name (entry :: entries) = entriesOf nameOf name entries := by
  simp [entriesOf, other]

theorem entriesOf_eq_nil :
    entriesOf nameOf name entries = [] ↔ name ∉ entries.map nameOf := by
  simp [entriesOf, List.filter_eq_nil_iff]

theorem getLast?_entriesOf_eq_none :
    (entriesOf nameOf name entries).getLast? = none ↔ name ∉ entries.map nameOf := by
  rw [List.getLast?_eq_none_iff, entriesOf_eq_nil]

theorem entriesOf_upsert_same (same : nameOf entry = name) :
    entriesOf nameOf name (upsert nameOf entry entries) =
      entry :: (entriesOf nameOf name entries).tail := by
  induction entries with
  | nil => exact entriesOf_cons_same same
  | cons old rest ih =>
    by_cases hold : nameOf old = name
    · rw [upsert, if_pos (hold.trans same.symm), entriesOf_cons_same same,
        entriesOf_cons_same hold, List.tail_cons]
    · rw [upsert, if_neg (fun h => hold (h.trans same)), entriesOf_cons_other hold, ih,
        entriesOf_cons_other hold]

/-- An entry that a choice of names leaves out leaves no trace in what is chosen. -/
theorem filter_upsert {p : String → Bool} (left_out : p (nameOf entry) = false) :
    (upsert nameOf entry entries).filter (fun e => p (nameOf e)) =
      entries.filter fun e => p (nameOf e) := by
  induction entries with
  | nil => simp [upsert, left_out]
  | cons old rest ih =>
    by_cases replaced : nameOf old = nameOf entry
    · simp [upsert, replaced, left_out]
    · simp [upsert, replaced, List.filter_cons, ih]

theorem entriesOf_upsert_other (other : nameOf entry ≠ name) :
    entriesOf nameOf name (upsert nameOf entry entries) = entriesOf nameOf name entries :=
  filter_upsert (p := fun name' => name' = name) (decide_eq_false other)

theorem upsert_upsert (same : nameOf old = nameOf entry) (entries : List α) :
    upsert nameOf entry (upsert nameOf old entries) = upsert nameOf entry entries := by
  induction entries with
  | nil => simp [upsert, same]
  | cons first rest ih =>
    by_cases replaced : nameOf first = nameOf entry
    · simp [upsert, replaced, same]
    · simp [upsert, replaced, same, ih]

theorem entriesOf_merge_absent (absent : name ∉ overrides.map nameOf) :
    entriesOf nameOf name (merge nameOf base overrides) = entriesOf nameOf name base := by
  unfold merge
  induction overrides generalizing base with
  | nil => rfl
  | cons entry rest ih =>
    rw [List.map_cons, List.mem_cons, not_or] at absent
    rw [List.foldl_cons, ih absent.2, entriesOf_upsert_other (Ne.symm absent.1)]

/-- Of the overrides of a name only the last one is left, in the place of the first entry that the
base has of it. -/
theorem entriesOf_merge_last (set : (entriesOf nameOf name overrides).getLast? = some last) :
    entriesOf nameOf name (merge nameOf base overrides) =
      last :: (entriesOf nameOf name base).tail := by
  induction overrides generalizing base with
  | nil => cases set
  | cons entry rest ih =>
    have step : merge nameOf base (entry :: rest) = merge nameOf (upsert nameOf entry base) rest :=
      rfl
    rw [step]
    by_cases same : nameOf entry = name
    · rw [entriesOf_cons_same same, List.getLast?_cons] at set
      cases later : (entriesOf nameOf name rest).getLast? with
      | some other =>
        rw [later, Option.getD_some] at set
        cases set
        rw [ih later, entriesOf_upsert_same same, List.tail_cons]
      | none =>
        rw [later, Option.getD_none] at set
        cases set
        have absent := getLast?_entriesOf_eq_none.mp later
        rw [entriesOf_merge_absent absent, entriesOf_upsert_same same]
    · rw [entriesOf_cons_other same] at set
      rw [ih set, entriesOf_upsert_other same]

/-- At the head of what merging leaves of a name is the last override, if there is one. -/
theorem head?_entriesOf_merge (base overrides : List α) :
    (entriesOf nameOf name (merge nameOf base overrides)).head? =
      (entriesOf nameOf name overrides).getLast?.or (entriesOf nameOf name base).head? := by
  cases set : (entriesOf nameOf name overrides).getLast? with
  | some last => rw [entriesOf_merge_last set, List.head?_cons, Option.some_or]
  | none => rw [entriesOf_merge_absent (getLast?_entriesOf_eq_none.mp set), Option.none_or]

theorem tail_entriesOf_merge (base overrides : List α) :
    (entriesOf nameOf name (merge nameOf base overrides)).tail =
      (entriesOf nameOf name base).tail := by
  cases set : (entriesOf nameOf name overrides).getLast? with
  | some last => rw [entriesOf_merge_last set, List.tail_cons]
  | none => rw [entriesOf_merge_absent (getLast?_entriesOf_eq_none.mp set)]

theorem map_upsert (entry : α) (entries : List α) :
    (upsert nameOf entry entries).map nameOf =
      if nameOf entry ∈ entries.map nameOf then entries.map nameOf
      else entries.map nameOf ++ [nameOf entry] := by
  induction entries with
  | nil => simp [upsert]
  | cons old rest ih =>
    by_cases same : nameOf old = nameOf entry
    · simp [upsert, same]
    · rw [upsert, if_neg same, List.map_cons, ih]
      simp only [List.map_cons, List.mem_cons, Ne.symm same, false_or]
      split <;> rfl

/-- Merging appends the names that the base lacks, each where it occurs first. -/
theorem map_merge (base overrides : List α) :
    (merge nameOf base overrides).map nameOf = base.map nameOf ++
      ((overrides.map nameOf).filter fun name => name ∉ base.map nameOf).eraseDups := by
  induction overrides generalizing base with
  | nil => simp [merge]
  | cons entry rest ih =>
    have step : merge nameOf base (entry :: rest) = merge nameOf (upsert nameOf entry base) rest :=
      rfl
    rw [step, ih, map_upsert, List.map_cons]
    by_cases known : nameOf entry ∈ base.map nameOf
    · rw [if_pos known, List.filter_cons_of_neg (by simpa using known)]
    · have later : (rest.map nameOf).filter (fun name => name ∉ base.map nameOf ++ [nameOf entry]) =
          ((rest.map nameOf).filter fun name => name ∉ base.map nameOf).filter
            fun name => !name == nameOf entry := by
        rw [List.filter_filter]
        apply List.filter_congr
        intro name _
        rw [Bool.eq_iff_iff]
        simp [and_comm]
      rw [if_neg known, List.filter_cons_of_pos (by simpa using known), List.eraseDups_cons, later,
        List.append_assoc, List.singleton_append]

theorem mem_map_merge {base overrides : List α} :
    name ∈ (merge nameOf base overrides).map nameOf ↔
      name ∈ base.map nameOf ∨ name ∈ overrides.map nameOf := by
  rw [map_merge, List.mem_append, List.mem_eraseDups, List.mem_filter, decide_eq_true_eq]
  tauto

namespace TaskRunPlan

/-- The steps of a task: some that fetch the sources, and one for each step of the strategy. -/
theorem taskSpec_steps (settings : Settings) (build : Build) (run : BuildRun)
    (strategy : StrategySpec) : ∃ fetched,
    (taskSpec settings build run strategy).steps = fetched ++ strategy.steps.map
      (strategyStep (outputImage build run).pushSecret
        (mergeEnv build.spec.env run.spec.env)) :=
  ⟨_, rfl⟩

variable {build : Build} {run : BuildRun} {last : EnvVar}

/-- What a step that does not set a variable itself gets for it if the given entry is the last one
that the run has of it: this entry, or the last one of the build if the build repeats the
variable. -/
def reachingEntry (build : Build) (last : EnvVar) : EnvVar :=
  let own := entriesOf EnvVar.name last.name build.spec.env
  if own.length ≤ 1 then last else own.getLastD last

theorem getLast?_mergeEnv
    (set : (entriesOf EnvVar.name last.name run.spec.env).getLast? = some last) :
    (entriesOf EnvVar.name last.name (mergeEnv build.spec.env run.spec.env)).getLast? =
      some (reachingEntry build last) := by
  rw [mergeEnv, entriesOf_merge_last set, reachingEntry]
  rcases entriesOf EnvVar.name last.name build.spec.env with _ | ⟨first, _ | ⟨second, rest⟩⟩
  · rfl
  · rfl
  · simp [List.getLast?_cons]

theorem entriesOf_strategyStep {step : Step} (unset : last.name ∉ step.env.map (·.name))
    (set : (entriesOf EnvVar.name last.name run.spec.env).getLast? = some last) :
    entriesOf EnvVar.name last.name
        (strategyStep pushSecret (mergeEnv build.spec.env run.spec.env) step).env =
      [reachingEntry build last] := by
  have none_own : entriesOf EnvVar.name last.name step.env = [] := entriesOf_eq_nil.mpr unset
  rw [strategyStep]
  dsimp only
  rw [mergeEnv, entriesOf_merge_last (getLast?_mergeEnv set), none_own, List.tail_nil]

end TaskRunPlan

namespace TaskRun

/-- A step of the strategy that does not set a variable itself gets exactly one entry of each
variable that the run sets. It is the last one of the run if the build sets the variable at most
once. Of a variable that the build repeats it is the last one of the build. -/
theorem plan_env_reaches (settings : Settings) (taskRunName : String) (build : Build)
    (run : BuildRun) (strategy : StrategySpec) : ∃ fetched made,
    (plan settings taskRunName build run strategy).spec.taskSpec.steps = fetched ++ made ∧
      strategy.steps.Forall₂ (fun step ran => ∀ last : EnvVar,
        last.name ∉ step.env.map (·.name) →
        (entriesOf EnvVar.name last.name run.spec.env).getLast? = some last →
          entriesOf EnvVar.name last.name ran.env =
            [let own := entriesOf EnvVar.name last.name build.spec.env
             if own.length ≤ 1 then last else own.getLastD last]) made := by
  obtain ⟨fetched, steps⟩ := TaskRunPlan.taskSpec_steps settings build run strategy
  refine ⟨fetched, _, steps, ?_⟩
  rw [List.forall₂_map_right_iff]
  apply List.forall₂_same.mpr
  intro step _ last unset set
  exact TaskRunPlan.entriesOf_strategyStep unset set

/-- The run sets a variable twice that the build sets once: its last entry takes effect. -/
theorem plan_env_reaches_once :
    let build : Build :=
      { metadata := { name := "app" }
        spec := { strategy := { name := "buildah" }, output := { image := "registry/app" }
                  env := [{ name := "MODE", value := some "debug" },
                    { name := "LANG", value := some "C" }] } }
    let last : EnvVar := { name := "MODE", value := some "profile" }
    let run : BuildRun :=
      { metadata := { name := "run" }
        spec := { build := { name := "app" }
                  env := [{ name := "MODE", value := some "trace" }, last] } }
    let step : Step :=
      { name := "build", image := "buildah", env := [{ name := "LANG", value := some "de" }] }
    last.name ∉ step.env.map (·.name) ∧
      (entriesOf EnvVar.name last.name run.spec.env).getLast? = some last ∧
      ∃ ran ∈ (plan {} "run-0a1b2" build run { steps := [step] }).spec.taskSpec.steps,
        entriesOf EnvVar.name "MODE" ran.env = [last] := by
  intro build last run step
  obtain ⟨fetched, made, steps, each⟩ :=
    plan_env_reaches {} "run-0a1b2" build run { steps := [step] }
  obtain ⟨ran, rest, reached, others, rfl⟩ := List.forall₂_cons_left_iff.mp each
  refine ⟨by decide, by decide, ran, ?_, reached last (by decide) (by decide)⟩
  rw [steps]
  exact List.mem_append_right _ List.mem_cons_self

/-- The build sets a variable twice, and the gate accepts it. A step gets the last entry of the
build although the run sets the variable too. -/
theorem plan_env_override_lost :
    let release : EnvVar := { name := "MODE", value := some "release" }
    let profile : EnvVar := { name := "MODE", value := some "profile" }
    let build : Build :=
      { metadata := { name := "app" }
        spec := { strategy := { name := "buildah" }, output := { image := "registry/app" }
                  env := [{ name := "MODE", value := some "debug" }, release] } }
    let run : BuildRun :=
      { metadata := { name := "run" }, spec := { build := { name := "app" }, env := [profile] } }
    let step : Step := { name := "build", image := "buildah" }
    envViolation? build.spec.env = none ∧ envViolation? run.spec.env = none ∧
      "MODE" ∉ step.env.map (·.name) ∧
      (entriesOf EnvVar.name "MODE" run.spec.env).getLast? = some profile ∧
      ∃ ran ∈ (plan {} "run-0a1b2" build run { steps := [step] }).spec.taskSpec.steps,
        entriesOf EnvVar.name "MODE" ran.env = [release] ∧ release ≠ profile := by
  intro release profile build run step
  refine ⟨by decide, by decide, by decide, by decide, { step with env := [release] }, ?_, ?_⟩
  · exact List.mem_singleton.mpr rfl
  · decide

end TaskRun

end BuildController
