import BuildController.Proofs.Loop
import BuildController.Proofs.Status

/-! Coherence of statuses. The condition, the times, the failure and the results of a run are
written by different parts of a pass; in every status that is ever stored they fit together. -/
namespace BuildController

/-- The parts of a status fit together. -/
structure RunStatus.Coherent (s : RunStatus) : Prop where
  single : s.conditions = [] ∨ ∃ c, s.conditions = [c] ∧ c.type = Condition.succeededType
  completed : s.completionTime.isSome ↔
    ∃ c ∈ s.conditions, c.status = .true ∨ c.status = .false
  succeeded : ∀ c ∈ s.conditions, c.status = .true ↔ c.reason = RunReason.succeeded.text
  unknown : ∀ c ∈ s.conditions, c.status = .unknown →
    (c.reason = RunReason.pending.text ∨ c.reason = RunReason.running.text) ∧
      s.taskRunName.isSome ∧ s.startTime.isSome
  failure : s.failure.isSome →
    ∃ c ∈ s.conditions, c.status = .false ∧ c.reason = RunReason.failed.text
  results : s.output.isSome ∨ s.sources ≠ [] → ∃ c ∈ s.conditions, c.status = .true

/-- A coherent status of a run that has a start time as soon as it has a task run. -/
structure RunStatus.Sound (s : RunStatus) : Prop extends s.Coherent where
  started : s.taskRunName.isSome → s.startTime.isSome

/-- The one condition says this, with some message. -/
def RunStatus.Holds (s : RunStatus) (status : ConditionStatus) (reason : String) : Prop :=
  ∃ message time, s.conditions =
    [{ type := Condition.succeededType, status, reason, message, lastTransitionTime := time }]

theorem Violation.reason_ne_succeeded (v : Violation) : v.reason ≠ .succeeded := by
  cases v <;> exact nofun

theorem BuildReason.text_eq_succeeded {reason : BuildReason} :
    reason.text = RunReason.succeeded.text ↔ reason = .succeeded := by
  cases reason <;> decide

theorem RunReason.text_eq_succeeded {reason : RunReason} :
    reason.text = RunReason.succeeded.text ↔ reason = .succeeded := by
  cases reason <;> decide

theorem RunFailure.reason_ne_succeeded (failure : RunFailure) :
    failure.reason ≠ RunReason.succeeded.text := by
  cases failure with
  | conflict c => cases c <;> decide
  | violation v => exact fun same => v.reason_ne_succeeded (BuildReason.text_eq_succeeded.mp same)
  | buildNotFound | buildNotRegistered | taskRunMissing => simp [reason, RunReason.text]

namespace RunStatus

variable {s t : RunStatus} {status : ConditionStatus} {reason : String}

theorem sound_empty : Sound {} where
  single := .inl rfl
  completed := by simp
  succeeded := by simp
  unknown := by simp
  failure := by simp
  results := by simp
  started := by simp

/-- What is known about a run that is not done. -/
structure Undecided (s : RunStatus) : Prop where
  single : s.conditions = [] ∨ ∃ c, s.conditions = [c] ∧ c.type = Condition.succeededType
  completionTime : s.completionTime = none
  failure : s.failure = none
  output : s.output = none
  sources : s.sources = []
  started : s.taskRunName.isSome → s.startTime.isSome

theorem Sound.undecided (sound : s.Sound) (notDone : s.isDone = false) : s.Undecided := by
  have unknown : ∀ c ∈ s.conditions, c.status = .unknown := by
    obtain none | ⟨c, only, type⟩ := sound.single
    · simp [none]
    · simpa [isDone, succeeded?, Condition.find?, only, type] using notDone
  have results : ¬(s.output.isSome ∨ s.sources ≠ []) := by
    intro present
    obtain ⟨c, member, known⟩ := sound.results present
    cases (unknown c member).symm.trans known
  have failure : ¬s.failure.isSome := by
    intro present
    obtain ⟨c, member, known, -⟩ := sound.failure present
    cases (unknown c member).symm.trans known
  have completed : ¬s.completionTime.isSome := by
    intro present
    obtain ⟨c, member, known | known⟩ := sound.completed.mp present
    · cases (unknown c member).symm.trans known
    · cases (unknown c member).symm.trans known
  obtain ⟨output, sources⟩ := not_or.mp results
  constructor
  · exact sound.single
  · simpa using completed
  · simpa using failure
  · simpa using output
  · simpa using sources
  · exact sound.started

theorem holds_setSucceeded (now : Instant) (status : ConditionStatus) (reason message : String)
    (single : s.conditions = [] ∨ ∃ c, s.conditions = [c] ∧ c.type = Condition.succeededType) :
    (s.setSucceeded now status reason message).Holds status reason := by
  obtain none | ⟨c, only, type⟩ := single
  · exact ⟨message, some now, by simp [setSucceeded, Condition.set, none, Condition.succeeded]⟩
  · obtain ⟨time, replaced⟩ :=
      Condition.replacing_eq (Condition.succeeded now status reason message) c
    refine ⟨message, time, ?_⟩
    have same : c.type = (Condition.succeeded now status reason message).type := type
    simp only [setSucceeded, only, Condition.set, if_pos same, replaced]
    rfl

theorem Holds.congr (holds : s.Holds status reason) (same : t.conditions = s.conditions) :
    t.Holds status reason := by
  obtain ⟨message, time, only⟩ := holds
  exact ⟨message, time, same.trans only⟩

/-- A status with one condition is sound if everything else goes with what this condition holds. -/
theorem Holds.sound (holds : s.Holds status reason)
    (completed : s.completionTime.isSome ↔ status ≠ .unknown)
    (succeeded : status = .true ↔ reason = RunReason.succeeded.text)
    (unknown : status = .unknown →
      (reason = RunReason.pending.text ∨ reason = RunReason.running.text) ∧ s.taskRunName.isSome)
    (failure : s.failure.isSome → status = .false ∧ reason = RunReason.failed.text)
    (results : s.output.isSome ∨ s.sources ≠ [] → status = .true)
    (started : s.taskRunName.isSome → s.startTime.isSome) : s.Sound := by
  obtain ⟨message, time, only⟩ := holds
  constructor
  · constructor
    · exact .inr ⟨_, only, rfl⟩
    · rw [completed, only]
      cases status <;> simp
    · simpa [only] using succeeded
    · simp only [only, List.mem_singleton, forall_eq]
      intro open_
      obtain ⟨reasons, named⟩ := unknown open_
      exact ⟨reasons, named, started named⟩
    · simpa [only] using failure
    · simpa [only] using results
  · exact started

end RunStatus

namespace Observation

variable {run : BuildRun} {taskRun : TaskRun}

theorem verdict_cases (run : BuildRun) (taskRun : TaskRun) :
    ((verdict run taskRun).1 = .unknown ∧
      ((verdict run taskRun).2.1 = .pending ∨ (verdict run taskRun).2.1 = .running)) ∨
    ((verdict run taskRun).1 = .true ∧ (verdict run taskRun).2.1 = .succeeded) ∨
    ((verdict run taskRun).1 = .false ∧ (verdict run taskRun).2.1 ≠ .succeeded) := by
  unfold verdict
  cases taskRun.status.succeeded? with
  | none => simp
  | some c =>
    dsimp only
    cases c.status with
    | true => simp
    | unknown =>
      dsimp only
      split <;> simp
    | false =>
      dsimp only
      split
      · simp
      · split <;> simp

theorem verdict_succeeded : (verdict run taskRun).1 = .true ↔
    (verdict run taskRun).2.1 = .succeeded := by
  obtain ⟨status, pending | running⟩ | ⟨status, reason⟩ | ⟨status, reason⟩ :=
    verdict_cases run taskRun
  · simp [status, pending]
  · simp [status, running]
  · simp [status, reason]
  · simp [status, reason]

theorem verdict_unknown (unknown : (verdict run taskRun).1 = .unknown) :
    (verdict run taskRun).2.1 = .pending ∨ (verdict run taskRun).2.1 = .running := by
  obtain ⟨-, reasons⟩ | ⟨status, -⟩ | ⟨status, -⟩ := verdict_cases run taskRun
  · exact reasons
  · cases unknown.symm.trans status
  · cases unknown.symm.trans status

theorem verdict_failed (run : BuildRun) (failed : hasFailed taskRun = true) :
    (verdict run taskRun).1 = .false ∧ (verdict run taskRun).2.1 = .failed := by
  cases reported : taskRun.status.succeeded? with
  | none => simp [hasFailed, reported] at failed
  | some c =>
    simp only [hasFailed, reported, Condition.agrees, Bool.and_eq_true, decide_eq_true_eq] at failed
    obtain ⟨⟨-, status⟩, reason⟩ := failed
    simp [verdict, reported, status, reason, failedReason, timeoutReason, cancelledReason]

theorem verdict_true (succeeded : hasSucceeded taskRun = true) :
    (verdict run taskRun).1 = .true := by
  cases reported : taskRun.status.succeeded? with
  | none => simp [hasSucceeded, reported] at succeeded
  | some c =>
    have status : c.status = .true := by simpa [hasSucceeded, reported] using succeeded
    simp [verdict, reported, status]

end Observation

namespace BuildRun

variable {run next : BuildRun}

theorem sound_started (undecided : run.status.Undecided) (now : Readings) (name : String) :
    (run.started now name).status.Sound := by
  have holds : (run.started now name).status.Holds .unknown RunReason.pending.text :=
    RunStatus.holds_setSucceeded now.condition _ _ _ undecided.single
  apply holds.sound
  · simp [started, RunStatus.setSucceeded, undecided.completionTime]
  · decide
  · simp [started, RunStatus.setSucceeded]
  · simp [started, RunStatus.setSucceeded, undecided.failure]
  · simp [started, RunStatus.setSucceeded, undecided.output, undecided.sources]
  · simp [started, RunStatus.setSucceeded]

theorem sound_failed (undecided : run.status.Undecided) (now : Readings) (failure : RunFailure) :
    (run.failed now failure).status.Sound := by
  have holds : (run.failed now failure).status.Holds .false failure.reason :=
    (RunStatus.holds_setSucceeded now.condition .false failure.reason failure.message
      undecided.single).congr rfl
  apply holds.sound
  · simp [failed]
  · simp [failure.reason_ne_succeeded]
  · simp
  · simp [failed, RunStatus.setSucceeded, undecided.failure]
  · simp [failed, RunStatus.setSucceeded, undecided.output, undecided.sources]
  · exact undecided.started

theorem sound_observe (undecided : run.status.Undecided)
    (recorded : run.status.taskRunName = some name) (now : Readings) (taskRun : TaskRun) :
    (Observation.observe now run taskRun).status.Sound := by
  obtain ⟨failure, output, sources, status, failed, succeeded⟩ :=
    Observation.observe_status now run taskRun
  rw [status]
  have known : (Observation.conditions now run taskRun).status.Holds
      (Observation.verdict run taskRun).1 (Observation.verdict run taskRun).2.1.text :=
    (RunStatus.holds_setSucceeded now.condition _ _ _ undecided.single).congr rfl
  have holds := known.congr (t := { (Observation.conditions now run taskRun).status with
    failure, output, sources }) rfl
  apply holds.sound
  · by_cases unknown : (Observation.verdict run taskRun).1 = .unknown
    · simp [Observation.conditions, RunStatus.setSucceeded, unknown, undecided.completionTime]
    · simp [Observation.conditions, unknown]
  · rw [RunReason.text_eq_succeeded]
    exact Observation.verdict_succeeded
  · intro unknown
    refine ⟨?_, ?_⟩
    · obtain pending | running := Observation.verdict_unknown unknown
      · exact .inl (congrArg RunReason.text pending)
      · exact .inr (congrArg RunReason.text running)
    · simp [Observation.conditions, RunStatus.setSucceeded, recorded]
  · intro present
    obtain same | failed := failed
    · simp [same, undecided.failure] at present
    · obtain ⟨status, reason⟩ := Observation.verdict_failed run failed
      exact ⟨status, congrArg RunReason.text reason⟩
  · intro present
    obtain ⟨rfl, rfl⟩ | succeeded := succeeded
    · simp [undecided.output, undecided.sources] at present
    · exact Observation.verdict_true succeeded
  · intro named
    have started := undecided.started named
    simp [Observation.conditions, RunStatus.setSucceeded, started]

/-- Whatever becomes of a run that is not done, its status is sound. -/
theorem Becomes.sound (becomes : run.Becomes next) (sound : run.status.Sound)
    (notDone : run.status.isDone = false) : next.status.Sound := by
  have undecided := sound.undecided notDone
  cases becomes with
  | started _ now name => exact sound_started undecided now name
  | failed now failure => exact sound_failed undecided now failure
  | observed recorded now taskRun => exact sound_observe undecided recorded now taskRun

end BuildRun

namespace System

variable {s t : System}

/-- All stored statuses are sound, and so are those that passes under way may write. -/
structure Sound (settings : Settings) (s : System) : Prop where
  statuses : ∀ key run, s.cluster.runs.get? key = some run → run.status.Sound
  flights : ∀ flight ∈ s.flights, flight.Safe settings fun _ next => next.status.Sound

theorem Sound.next (sound : s.Sound settings) (step : Step settings s t) : t.Sound settings where
  statuses key run stored := by
    obtain carried | ⟨subject, effect, resume, next, member, writes, -, same⟩ :=
      step.carries stored
    · unfold Cluster.Carries at carried
      split at carried
      · next old found =>
        rw [carried]
        exact sound.statuses key old found
      · rw [carried]
        exact RunStatus.sound_empty
    · obtain ⟨⟨_, _, written⟩, _⟩ := (sound.flights _ member).writes writes
      rw [same]
      exact written
  flights := step.safe sound.flights fun key run next stored notDone becomes =>
    becomes.sound (sound.statuses key run stored) notDone

theorem Sound.reaches {within : System → Prop} (sound : s.Sound settings)
    (path : Path settings within s t) :
    t.Sound settings := by
  induction path with
  | refl => exact sound
  | tail earlier last ih => exact ih.next last.1

/-- If all statuses are empty at first, every status that is ever stored is coherent, whatever
passes there are, whatever fails and whatever else changes. -/
theorem statuses_coherent (settings : Settings)
    (empty : ∀ key run, s.cluster.runs.get? key = some run → run.status = {})
    (idle : s.flights = []) (path : Path settings (fun _ => True) s t)
    (stored : t.cluster.runs.get? key = some run) : run.status.Coherent := by
  have sound : s.Sound settings := by
    constructor
    · intro key run stored
      rw [empty key run stored]
      exact RunStatus.sound_empty
    · simp [idle]
  exact ((sound.reaches path).statuses key run stored).toCoherent

/-- The control loop leaves such statuses behind, even if it cannot write the last one. -/
theorem statuses_coherent_looped :
    let build : Build :=
      { metadata := { name := "app", ns := some "default" }
        spec := { strategy := { name := "kaniko" }, output := { image := "registry/app" } } }
    let strategy : BuildStrategy :=
      { metadata := { name := "kaniko", ns := some "default" }, spec := {} }
    let run (name uid : String) : BuildRun :=
      { metadata := { name, ns := some "default", uid }, spec := { build := { name := "app" } } }
    let reported : TaskRun :=
      { metadata := { name := "first-0a1b2", ns := some "default" }
        spec := { taskSpec := {} }
        status := { conditions := [.succeeded default .true "Succeeded" ""] } }
    let session : Session :=
      { cluster := (((Cluster.put {} (.build build)).put (.strategy strategy)).put
          (.run (run "first" "0a1b2c"))).put (.run (run "second" "3d4e5f")) |>.put
          (.taskRun reported)
        faults := [(.updateRunStatus, ⟨3, some .transport⟩)] }
    let c := (controlLoop (Session.machine default fun _ => "") {} 2 session).cluster
    Path {} (fun _ => True) ⟨session.cluster, []⟩ ⟨c, []⟩ ∧
      ∃ ended, c.runs.get? ⟨"default", "first"⟩ = some ended ∧ ended.status.isDone = true ∧
        ended.status.Coherent := by
  intro build strategy run reported session c
  have empty : ∀ key other, session.cluster.runs.get? key = some other → other.status = {} := by
    intro key other stored
    obtain rfl | stored := OrderedMap.eq_or_of_get?_insert stored
    · rfl
    · rw [OrderedMap.eq_of_get?_insert_empty stored]
  have path : Path {} (fun _ => True) ⟨session.cluster, []⟩ ⟨c, []⟩ :=
    path_of_controlLoop (Session.machine_faithful default _) (fun _ => trivial)
      (fun _ _ => trivial) {} 2 session
  have done : (c.runs.get? ⟨"default", "first"⟩).map (fun run => run.status.isDone) = some true := by
    decide +kernel
  obtain ⟨ended, stored, done⟩ := Option.map_eq_some_iff.mp done
  exact ⟨path, ended, stored, done, statuses_coherent {} empty rfl path stored⟩

end System

end BuildController
