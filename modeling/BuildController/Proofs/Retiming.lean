import Mathlib.Data.List.Forall2
import BuildController.Proofs.Advance

/-! Runs that differ in nothing but in what the clock showed. Two passes that read different clocks
write statuses that are equal in all but those times that are readings of the clock, each made for
the same purpose. -/
namespace BuildController

/-- The same time, or what each of two clocks showed. -/
def Instant.Retimed (now now' s t : Instant) : Prop := s = t ∨ (s = now ∧ t = now')

/-- Conditions that differ at most in their transition times, as readings of the clock. -/
structure Condition.Retimed (now now' : Instant) (c d : Condition) : Prop where
  same : d = { c with lastTransitionTime := d.lastTransitionTime }
  time : Option.Rel (Instant.Retimed now now') c.lastTransitionTime d.lastTransitionTime

/-- Statuses that differ at most in times, as readings of the clock. -/
structure RunStatus.Retimed (now now' : Readings) (s t : RunStatus) : Prop where
  conditions : List.Forall₂ (Condition.Retimed now.condition now'.condition) s.conditions
    t.conditions
  taskRunName : t.taskRunName = s.taskRunName
  startTime : Option.Rel (Instant.Retimed now.time now'.time) s.startTime t.startTime
  completionTime : Option.Rel (Instant.Retimed now.time now'.time) s.completionTime
    t.completionTime
  failure : t.failure = s.failure
  output : t.output = s.output
  sources : t.sources = s.sources

/-- Runs whose statuses differ at most in times, as readings of the clock. -/
structure BuildRun.Retimed (now now' : Readings) (run other : BuildRun) : Prop where
  same : other = { run with status := other.status }
  status : run.status.Retimed now now' other.status

/-- Control planes whose runs differ at most in times, as readings of the clock. -/
structure Cluster.Retimed (now now' : Readings) (c d : Cluster) : Prop where
  same : d = { c with runs := d.runs }
  runs : ∀ key, Option.Rel (BuildRun.Retimed now now') (c.runs.get? key) (d.runs.get? key)

section Instants

variable {now now' : Instant}

namespace Instant

theorem Retimed.refl (t : Instant) : Retimed now now' t t := .inl rfl

theorem retimed_clock : Retimed now now' now now' := .inr ⟨rfl, rfl⟩

theorem retimed_option (time : Option Instant) : Option.Rel (Retimed now now') time time := by
  cases time with
  | none => exact .none
  | some t => exact .some (Retimed.refl t)

theorem retimed_getD (time : Option Instant) :
    Retimed now now' (time.getD now) (time.getD now') := by
  cases time with
  | none => exact retimed_clock
  | some t => exact .refl t

theorem retimed_or (time : Option Instant) :
    Option.Rel (Retimed now now') (time.or (some now)) (time.or (some now')) := by
  cases time with
  | none => exact .some retimed_clock
  | some t => exact .some (.refl t)

end Instant

namespace Condition

theorem Retimed.refl (c : Condition) : Retimed now now' c c := ⟨rfl, Instant.retimed_option _⟩

theorem retimed_list (conditions : List Condition) :
    List.Forall₂ (Retimed now now') conditions conditions :=
  List.forall₂_same.mpr fun c _ => Retimed.refl c

theorem Retimed.replacing {c d : Condition} (retimed : c.Retimed now now' d) (old : Condition) :
    (c.replacing old).Retimed now now' (d.replacing old) := by
  obtain ⟨same, time⟩ := retimed
  have status : d.status = c.status := by rw [same]
  have reason : d.reason = c.reason := by rw [same]
  unfold Condition.replacing
  rw [status, reason]
  split
  · refine ⟨?_, Instant.retimed_option _⟩
    rw [same]
  · exact ⟨same, time⟩

theorem Retimed.set {c d : Condition} (retimed : c.Retimed now now' d)
    (conditions : List Condition) :
    List.Forall₂ (Retimed now now') (c.set conditions) (d.set conditions) := by
  have type : d.type = c.type := by rw [retimed.same]
  induction conditions with
  | nil => exact .cons retimed .nil
  | cons old rest ih =>
    simp only [Condition.set, type]
    split
    · exact .cons (retimed.replacing old) (retimed_list rest)
    · exact .cons (Retimed.refl old) ih

theorem retimed_succeeded (status : ConditionStatus) (reason message : String) :
    (succeeded now status reason message).Retimed now now'
      (succeeded now' status reason message) := ⟨rfl, .some Instant.retimed_clock⟩

end Condition

end Instants

variable {now now' : Readings}

namespace RunStatus

theorem Retimed.refl (s : RunStatus) : Retimed now now' s s where
  conditions := Condition.retimed_list _
  taskRunName := rfl
  startTime := Instant.retimed_option _
  completionTime := Instant.retimed_option _
  failure := rfl
  output := rfl
  sources := rfl

theorem retimed_setSucceeded (s : RunStatus) (status : ConditionStatus) (reason message : String) :
    (s.setSucceeded now.condition status reason message).Retimed now now'
      (s.setSucceeded now'.condition status reason message) :=
  { Retimed.refl s with conditions := (Condition.retimed_succeeded _ _ _).set s.conditions }

end RunStatus

namespace BuildRun

theorem Retimed.refl (run : BuildRun) : Retimed now now' run run := ⟨rfl, .refl _⟩

theorem retimed_failed (run : BuildRun) (failure : RunFailure) :
    (run.failed now failure).Retimed now now' (run.failed now' failure) where
  same := rfl
  status :=
    { RunStatus.retimed_setSucceeded run.status _ _ _ with
      completionTime := .some Instant.retimed_clock }

theorem retimed_started (run : BuildRun) (taskRun : String) :
    (run.started now taskRun).Retimed now now' (run.started now' taskRun) where
  same := rfl
  status :=
    { conditions := (Condition.retimed_succeeded _ _ _).set run.status.conditions
      taskRunName := rfl
      startTime := .some (Instant.retimed_getD _)
      completionTime := Instant.retimed_option _
      failure := rfl
      output := rfl
      sources := rfl }

end BuildRun

namespace Observation

theorem retimed_conditions (run : BuildRun) (taskRun : TaskRun) :
    (conditions now run taskRun).Retimed now now' (conditions now' run taskRun) where
  same := rfl
  status :=
    { conditions := (Condition.retimed_succeeded _ _ _).set run.status.conditions
      taskRunName := rfl
      startTime := Instant.retimed_option _
      completionTime := by
        dsimp only [conditions]
        split
        · exact Instant.retimed_option _
        · exact Instant.retimed_or _
      failure := rfl
      output := rfl
      sources := rfl }

theorem retimed_failures {run other : BuildRun} (retimed : run.Retimed now now' other)
    (taskRun : TaskRun) : (failures run taskRun).Retimed now now' (failures other taskRun) := by
  unfold failures
  split
  · cases taskRun.status.steps.findSome? stepFailure? with
    | none => exact retimed
    | some details =>
      exact ⟨by rw [retimed.same], { retimed.status with failure := rfl }⟩
  · exact retimed

theorem retimed_results {run other : BuildRun} (retimed : run.Retimed now now' other)
    (taskRun : TaskRun) : (results run taskRun).Retimed now now' (results other taskRun) := by
  have output := retimed.status.output
  have sources := retimed.status.sources
  refine ⟨?_, { retimed.status with output := ?_, sources := ?_ }⟩
  · rw [retimed.same]
    rfl
  · simp only [results, output]
  · simp only [results, sources]

/-- What a run learns from its task run depends on the clock in its times only. -/
theorem retimed_observe (run : BuildRun) (taskRun : TaskRun) :
    (observe now run taskRun).Retimed now now' (observe now' run taskRun) := by
  have seen : (failures (conditions now run taskRun) taskRun).Retimed now now'
      (failures (conditions now' run taskRun) taskRun) :=
    retimed_failures (retimed_conditions run taskRun) taskRun
  unfold observe
  dsimp only
  split
  · exact retimed_results seen taskRun
  · exact seen

end Observation

namespace Cluster

theorem Retimed.refl (c : Cluster) : Retimed now now' c c where
  same := rfl
  runs key := by
    cases c.runs.get? key with
    | none => exact .none
    | some run => exact .some (.refl run)

theorem retimed_withRun {next other : BuildRun} (c : Cluster)
    (retimed : next.Retimed now now' other) :
    (c.withRun next).Retimed now now' (c.withRun other) where
  same := rfl
  runs key := by
    have same : other.metadata.key = next.metadata.key := by rw [retimed.same]
    simp only [withRun, OrderedMap.get?_insert, same]
    split
    · exact .some retimed
    · exact (Retimed.refl c).runs key

end Cluster

end BuildController
