import BuildController.Observation
import BuildController.Pass.Start
import BuildController.Proofs.Merging

/-! The statuses that a pass writes. Conditions change in one way only, by setting the `Succeeded`
condition, so what this condition says afterwards and when a run is done is settled here. -/
namespace BuildController

namespace Condition

theorem replacing_eq (c old : Condition) :
    ∃ time, c.replacing old = { c with lastTransitionTime := time } := by
  unfold replacing
  split
  · exact ⟨_, rfl⟩
  · exact ⟨_, rfl⟩

/-- What is stored of a condition if the given one, if any, was known before. -/
def following (c : Condition) : Option Condition → Condition
  | none => c
  | some old => c.replacing old

theorem following_eq (c : Condition) (known : Option Condition) :
    ∃ time, c.following known = { c with lastTransitionTime := time } := by
  cases known with
  | none => exact ⟨c.lastTransitionTime, rfl⟩
  | some old => exact replacing_eq c old

@[simp] theorem type_following (c : Condition) (known : Option Condition) :
    (c.following known).type = c.type := by
  obtain ⟨time, stored⟩ := following_eq c known
  rw [stored]

/-- Conditions are merged by type, like entries by name. -/
theorem set_eq_upsert (c : Condition) (conditions : List Condition) :
    c.set conditions =
      upsert Condition.type (c.following (find? conditions c.type)) conditions := by
  induction conditions with
  | nil => rfl
  | cons old rest ih =>
    by_cases here : old.type = c.type
    · have found : find? (old :: rest) c.type = some old := by simp [find?, here]
      have type : old.type = (c.following (some old)).type := by rw [type_following, here]
      rw [set, if_pos here, found, upsert, if_pos type, following]
    · have found : find? (old :: rest) c.type = find? rest c.type := by simp [find?, here]
      have type : old.type ≠ (c.following (find? rest c.type)).type := by rwa [type_following]
      rw [set, if_neg here, found, upsert, if_neg type, ih]

theorem find?_eq_head? (conditions : List Condition) (type : String) :
    find? conditions type = (entriesOf Condition.type type conditions).head? := by
  rw [find?, entriesOf, List.head?_filter]

/-- Once set, a condition is the first one of its type. -/
theorem find?_set (c : Condition) (conditions : List Condition) :
    find? (c.set conditions) c.type = some (c.following (find? conditions c.type)) := by
  rw [find?_eq_head?, set_eq_upsert, entriesOf_upsert_same (type_following c _), List.head?_cons]

/-- What was set already is not set again. -/
theorem set_again {c d : Condition}
    (same : d = { c with lastTransitionTime := d.lastTransitionTime })
    (conditions : List Condition) : d.set (c.set conditions) = c.set conditions := by
  have type : d.type = c.type := by rw [same]
  obtain ⟨time, stored⟩ := following_eq c (find? conditions c.type)
  have replaced : d.replacing (c.following (find? conditions c.type)) =
      c.following (find? conditions c.type) := by
    have status : c.status = d.status := by rw [same]
    have reason : c.reason = d.reason := by rw [same]
    rw [stored, Condition.replacing, if_pos ⟨status, reason⟩, same]
  rw [set_eq_upsert d, type, find?_set, following, replaced, set_eq_upsert c, upsert_upsert rfl]

end Condition

namespace RunStatus

variable {s : RunStatus} {status : ConditionStatus} {reason message : String}

/-- The `Succeeded` condition is there and says this. -/
def Says (s : RunStatus) (status : ConditionStatus) (reason message : String) : Prop :=
  ∃ time, s.succeeded? = some
    { type := Condition.succeededType, status, reason, message, lastTransitionTime := time }

theorem Says.congr {t : RunStatus} (reported : s.Says status reason message)
    (same : t.conditions = s.conditions) : t.Says status reason message := by
  obtain ⟨time, found⟩ := reported
  exact ⟨time, by rw [← found, succeeded?, succeeded?, same]⟩

theorem Says.isDone_iff (reported : s.Says status reason message) :
    s.isDone = true ↔ status ≠ .unknown := by
  obtain ⟨time, found⟩ := reported
  simp [isDone, found]

theorem setSucceeded_says (s : RunStatus) (now : Instant) (status : ConditionStatus)
    (reason message : String) :
    (s.setSucceeded now status reason message).Says status reason message := by
  have found := Condition.find?_set (Condition.succeeded now status reason message) s.conditions
  obtain ⟨time, stored⟩ := Condition.following_eq (Condition.succeeded now status reason message)
    (Condition.find? s.conditions Condition.succeededType)
  exact ⟨time, found.trans (congrArg some stored)⟩

theorem setSucceeded_again {t : RunStatus}
    (known : t.conditions = (s.setSucceeded now status reason message).conditions)
    (now' : Instant) : t.setSucceeded now' status reason message = t := by
  have same : (Condition.succeeded now' status reason message).set t.conditions =
      t.conditions := by
    rw [known]
    exact Condition.set_again rfl s.conditions
  rw [setSucceeded, same]

end RunStatus

namespace BuildRun

theorem started_says (run : BuildRun) (now : Readings) (name : String) :
    (run.started now name).status.Says .unknown RunReason.pending.text "" :=
  RunStatus.setSucceeded_says _ _ _ _ _

theorem failed_says (run : BuildRun) (now : Readings) (failure : RunFailure) :
    (run.failed now failure).status.Says .false failure.reason failure.message :=
  (RunStatus.setSucceeded_says run.status now.condition _ _ _).congr rfl

end BuildRun

namespace Observation

/-- The failure that a task run tells, if any, replaces the one that was known. -/
theorem exists_failure (taskRun : TaskRun) : ∃ told : Option FailureDetails,
    (told = none ∨ hasFailed taskRun = true) ∧ ∀ run, failures run taskRun = { run with
      status := { run.status with failure := told.or run.status.failure } } := by
  unfold failures
  by_cases failed : hasFailed taskRun = true
  · refine ⟨taskRun.status.steps.findSome? stepFailure?, .inr failed, fun run => ?_⟩
    rw [if_pos failed]
    cases taskRun.status.steps.findSome? stepFailure? <;> rfl
  · exact ⟨none, .inl rfl, fun run => if_neg failed⟩

/-- Observing changes nothing but the status. -/
theorem observe_eq (now : Readings) (run : BuildRun) (taskRun : TaskRun) :
    observe now run taskRun = { run with status := (observe now run taskRun).status } := by
  obtain ⟨told, -, learns⟩ := exists_failure taskRun
  unfold observe
  rw [learns]
  split <;> rfl

/-- Beyond condition and times, an observation adds a failure only after a failed step and results
only after a success. -/
theorem observe_status (now : Readings) (run : BuildRun) (taskRun : TaskRun) :
    ∃ failure output sources, (observe now run taskRun).status =
        { (conditions now run taskRun).status with failure, output, sources } ∧
      (failure = run.status.failure ∨ hasFailed taskRun = true) ∧
      (output = run.status.output ∧ sources = run.status.sources ∨
        hasSucceeded taskRun = true) := by
  obtain ⟨told, failed, learns⟩ := exists_failure taskRun
  have origin : told.or run.status.failure = run.status.failure ∨ hasFailed taskRun = true :=
    failed.imp_left fun silent => by rw [silent, Option.none_or]
  unfold observe
  dsimp only
  rw [learns]
  split
  · next succeeded => exact ⟨_, _, _, rfl, origin, .inr succeeded⟩
  · exact ⟨_, _, _, rfl, origin, .inl ⟨rfl, rfl⟩⟩

theorem observe_taskRunName (now : Readings) (run : BuildRun) (taskRun : TaskRun) :
    (observe now run taskRun).status.taskRunName = run.status.taskRunName := by
  obtain ⟨failure, output, sources, status, -⟩ := observe_status now run taskRun
  rw [status]
  rfl

theorem observe_says (now : Readings) (run : BuildRun) (taskRun : TaskRun) :
    (observe now run taskRun).status.Says (verdict run taskRun).1
      (verdict run taskRun).2.1.text (verdict run taskRun).2.2 := by
  obtain ⟨failure, output, sources, status, -⟩ := observe_status now run taskRun
  rw [status]
  exact (RunStatus.setSucceeded_says run.status now.condition _ _ _).congr rfl

end Observation

end BuildController
