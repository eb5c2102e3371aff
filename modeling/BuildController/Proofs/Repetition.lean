import BuildController.Proofs.Status

/-! Looking at the same task run again. What was taken over from a task run the first time is found
unchanged the second time, and a completion time that had to be made up is kept in preference to a
later one. -/
namespace BuildController.Observation

variable {run seen : BuildRun} {taskRun : TaskRun} {now : Readings}

/-- Nothing that an observation changes has a say in what the task run means for the run. -/
theorem verdict_congr (same : seen.metadata = run.metadata) (taskRun : TaskRun) :
    verdict seen taskRun = verdict run taskRun := by
  unfold verdict timeoutMessage
  rw [same]

theorem conditions_again {failure : Option FailureDetails} {output : Option OutputResult}
    {sources : List SourceResult} (same : seen.metadata = run.metadata)
    (learned : seen.status =
      { (conditions now run taskRun).status with failure, output, sources }) (later : Readings) :
    conditions later seen taskRun = seen := by
  have verdict := verdict_congr same taskRun
  unfold conditions at learned ⊢
  rw [verdict]
  generalize Observation.verdict run taskRun = told at learned ⊢
  obtain ⟨status, reason, message⟩ := told
  dsimp only at learned ⊢
  have set : seen.status.setSucceeded later.condition status reason.text message = seen.status :=
    RunStatus.setSucceeded_again (by rw [learned]) later.condition
  have started : seen.status.startTime.or taskRun.status.startTime = seen.status.startTime := by
    rw [learned]
    simp [Option.or_assoc]
  have completed : (if status = .unknown then seen.status.completionTime
      else (taskRun.status.completionTime.or seen.status.completionTime).or (some later.time)) =
        seen.status.completionTime := by
    by_cases unknown : status = .unknown
    · rw [if_pos unknown]
    · rw [if_neg unknown, learned]
      -- A time that the task run reports stays in front, any other one is known by now.
      cases taskRun.status.completionTime <;> simp [unknown]
  rw [set, started, completed]

theorem failures_again (known : seen.status.failure = (failures run taskRun).status.failure) :
    failures seen taskRun = seen := by
  obtain ⟨told, -, learns⟩ := exists_failure taskRun
  have kept : told.or seen.status.failure = seen.status.failure := by
    rw [known, learns, ← Option.or_assoc, Option.or_self]
  rw [learns, kept]

/-- Sources are merged by name, like entries. -/
theorem setSource_eq_upsert (source : SourceResult) (sources : List SourceResult) :
    setSource source sources = upsert SourceResult.name source sources := by
  induction sources with
  | nil => rfl
  | cons old rest ih => rw [setSource, upsert, ih]

theorem setSource_again (source : SourceResult) (sources : List SourceResult) :
    setSource source (setSource source sources) = setSource source sources := by
  rw [setSource_eq_upsert, setSource_eq_upsert, upsert_upsert rfl]

theorem results_again (output : seen.status.output = (results run taskRun).status.output)
    (sources : seen.status.sources = (results run taskRun).status.sources) :
    results seen taskRun = seen := by
  have kept : (output? taskRun).or seen.status.output = seen.status.output := by
    rw [output, results, ← Option.or_assoc, Option.or_self]
  cases told : gitSource? taskRun with
  | none => simp only [results, told, kept]
  | some source =>
    have same : setSource source seen.status.sources = seen.status.sources := by
      simp only [results, told] at sources
      rw [sources, setSource_again]
    simp only [results, told, kept, same]

theorem observe_again (now later : Readings) (run : BuildRun) (taskRun : TaskRun) :
    observe later (observe now run taskRun) taskRun = observe now run taskRun := by
  obtain ⟨failure, output, sources, learned, -⟩ := observe_status now run taskRun
  have same : (observe now run taskRun).metadata = run.metadata := by rw [observe_eq]
  have failure : (observe now run taskRun).status.failure =
      (failures (conditions now run taskRun) taskRun).status.failure := by
    unfold observe
    split <;> rfl
  have results (succeeded : hasSucceeded taskRun = true) : observe now run taskRun =
      results (failures (conditions now run taskRun) taskRun) taskRun := by
    rw [observe, if_pos succeeded]
  generalize observe now run taskRun = seen at *
  rw [observe, conditions_again same learned, failures_again failure]
  split
  · next succeeded =>
    exact results_again (congrArg (·.status.output) (results succeeded))
      (congrArg (·.status.sources) (results succeeded))
  · rfl

/-- A run learns all that its task run has to tell at once. However often and at what times it looks
again, its status stays the same, with all times. -/
theorem observe_idempotent (now : Readings) (run : BuildRun) (taskRun : TaskRun)
    (times : List Readings) :
    times.foldl (fun seen later => observe later seen taskRun) (observe now run taskRun) =
      observe now run taskRun := by
  induction times with
  | nil => rfl
  | cons later times ih => rw [List.foldl_cons, observe_again, ih]

end BuildController.Observation
