import BuildController.Proofs.Advance
import BuildController.Proofs.Lookups

/-! Writes of run statuses. A pass over a build performs none, and a pass over a run performs at
most one, as the last thing that it does: it writes what the run becomes. -/
namespace BuildController

/-- The run whose status an effect writes. -/
def Effect.runWrite? : Effect → Option BuildRun
  | .send (.updateRunStatus run) => some run
  | _ => none

/-- The effect writes no status of a run. -/
def Effect.Quiet (effect : Effect) : Prop := effect.runWrite? = none

/-- The effect writes no status, neither of a build nor of a run. -/
def Effect.Mute : Effect → Prop
  | .send (.updateBuildStatus _) | .send (.updateRunStatus _) => False
  | _ => True

namespace Effect

theorem Mute.quiet {effect : Effect} (mute : effect.Mute) : effect.Quiet := by
  unfold Quiet runWrite?
  split
  · cases mute
  · rfl

theorem Looks.mute {effect : Effect} (looks : effect.Looks) : effect.Mute := by
  unfold Mute
  split
  · cases looks
  · cases looks
  · trivial

theorem Inquires.mute {effect : Effect} (inquires : effect.Inquires) : effect.Mute := by
  rcases inquires with looks | ⟨_, _, rfl⟩
  · exact looks.mute
  · trivial

end Effect

namespace Pass

/-- Whatever the answers, the pass writes no status of a run. -/
def Quiet (pass : Pass α) : Prop := pass.Keeps Effect.Quiet fun _ => True

/-- Whatever the answers, the pass writes at most one status of a run, a good one, and then nothing
more of this kind. -/
def Commits (good : BuildRun → Prop) : Pass α → Prop
  | done _ => True
  | perform effect resume =>
    (∀ next, effect.runWrite? = some next → good next ∧ ∀ answer, (resume answer).Quiet) ∧
      ∀ answer, (resume answer).Commits good

variable {good : BuildRun → Prop}

theorem Only.quiet {pass : Pass α} (mute : pass.Only Effect.Mute) : pass.Quiet :=
  mute.mono fun _ => Effect.Mute.quiet

theorem Quiet.commits {pass : Pass α} (quiet : pass.Quiet) : pass.Commits good := by
  induction pass with
  | done outcome => trivial
  | perform effect resume ih =>
    refine ⟨fun next written => ?_, fun answer => ih answer (quiet.2 answer)⟩
    rw [quiet.1] at written
    cases written

theorem Commits.mono {pass : Pass α} (commits : pass.Commits good)
    (weakens : ∀ next, good next → weaker next) : pass.Commits weaker := by
  induction pass with
  | done outcome => trivial
  | perform effect resume ih =>
    refine ⟨fun next written => ?_, fun answer => ih answer (commits.2 answer)⟩
    obtain ⟨holds, quiet⟩ := commits.1 next written
    exact ⟨weakens next holds, quiet⟩

theorem commits_updateRunStatus (holds : good next) :
    (send (.updateRunStatus next)).Commits good := by
  refine ⟨fun written equal => ?_, fun answer => ?_⟩
  · cases equal
    refine ⟨holds, fun answer => ?_⟩
    cases answer <;> trivial
  · cases answer <;> trivial

theorem commits_bind {pass : Pass α} {next : α → Pass β} (first : pass.Keeps Effect.Mute post)
    (rest : ∀ value, post value → (next value).Commits good) : (pass >>= next).Commits good := by
  change (pass.bind next).Commits good
  induction pass with
  | done outcome =>
    cases outcome with
    | ok value => exact rest value first
    | error error => trivial
  | perform effect resume ih =>
    refine ⟨fun written equal => ?_, fun answer => ih answer (first.2 answer)⟩
    rw [first.1.quiet] at equal
    cases equal

end Pass

open Pass

/-- Owner references are no part of a status. -/
theorem mute_adjustRuns (build : Build) (retain : Bool) (runs : List BuildRun) :
    (adjustRuns build retain runs).Only Effect.Mute := by
  induction runs with
  | nil => exact only_pure
  | cons run rest ih =>
    unfold adjustRuns
    split
    · exact ih
    · exact only_pure
    · exact Only.bind (only_send trivial) fun _ => ih

theorem mute_ownershipViolation? (build : Build) :
    (ownershipViolation? build).Only Effect.Mute := by
  unfold ownershipViolation?
  split
  · exact only_pure
  · exact Only.bind (only_send trivial) fun _ => mute_adjustRuns _ _ _

namespace Concern

theorem mute_violation? (build : Build) (concern : Concern) :
    (concern.violation? build).Only Effect.Mute := by
  by_cases writer : concern = .ownerReferences
  · subst writer
    exact mute_ownershipViolation? build
  · exact (only_violation? writer build).mono fun _ looks => looks.looks.mute

theorem mute_firstViolation? (build : Build) (concerns : List Concern) :
    (firstViolation? build concerns).Only Effect.Mute :=
  only_firstViolation? trivial build fun concern _ => mute_violation? build concern

end Concern

theorem Build.quiet_register (ns name : String) : (Build.register ns name).Quiet := by
  refine Only.bind (only_send rfl) fun found => ?_
  cases found with
  | none => exact only_pure
  | some build =>
    have checked := Concern.mute_firstViolation? build Concern.ofBuild
    exact Only.bind checked.quiet fun _ => only_send rfl

namespace BuildRun

/-- What a pass can make of a run, whatever answers it gets. -/
inductive Becomes (run : BuildRun) : BuildRun → Prop
  | started (unstarted : run.status.taskRunName = none) (now : Readings) (name : String) :
      Becomes run (run.started now name)
  | failed (now : Readings) (failure : RunFailure) : Becomes run (run.failed now failure)
  | observed (recorded : run.status.taskRunName = some name) (now : Readings) (taskRun : TaskRun) :
      Becomes run (Observation.observe now run taskRun)

variable {run : BuildRun}

theorem mute_taskRunName (run : BuildRun) : run.taskRunName.Only Effect.Mute := by
  unfold taskRunName
  split
  · exact only_pure
  · exact Only.bind (only_randomSuffix trivial) fun _ => only_pure

theorem mute_ensureTaskRun (settings : Settings) (run : BuildRun) (name : String) (build : Build)
    (strategy : BuildStrategy) :
    (run.ensureTaskRun settings name build strategy).Only Effect.Mute := by
  refine Only.bind (only_send trivial) fun found => ?_
  cases found with
  | some taskRun => exact only_pure
  | none => exact Only.bind (mute_taskRunName run) fun _ => only_send trivial

theorem keeps_start (unstarted : run.status.taskRunName = none) :
    (run.start settings).Keeps Effect.Mute run.Becomes := by
  have resolved : run.resolve.Only Effect.Mute :=
    (only_resolve run).mono fun _ inquires => inquires.inquires.mute
  refine keeps_bind.mpr (resolved.keeps fun found => ?_)
  cases found with
  | error failure =>
    exact keeps_bind.mpr ((ReadsClock.atEnd.only trivial).keeps fun now =>
      keeps_pure.mpr (.failed now failure))
  | ok value =>
    refine keeps_bind.mpr ((only_checkpoint trivial).keeps fun _ => ?_)
    refine keeps_bind.mpr ((mute_taskRunName run).keeps fun name => ?_)
    refine keeps_bind.mpr ((mute_ensureTaskRun _ _ _ _ _).keeps fun _ => ?_)
    exact keeps_bind.mpr ((ReadsClock.atStart.only trivial).keeps fun now =>
      keeps_pure.mpr (.started unstarted now name))

theorem keeps_follow (recorded : run.status.taskRunName = some name) :
    (run.follow name).Keeps Effect.Mute run.Becomes := by
  refine keeps_bind.mpr ((only_send trivial).keeps fun found => ?_)
  cases found with
  | none =>
    exact keeps_bind.mpr ((ReadsClock.atEnd.only trivial).keeps fun now =>
      keeps_pure.mpr (.failed now _))
  | some taskRun =>
    exact keeps_bind.mpr ((ReadsClock.atEnd.only trivial).keeps fun now =>
      keeps_pure.mpr (.observed recorded now taskRun))

/-- Until it knows what the run becomes, a pass writes no status. -/
theorem keeps_next (settings : Settings) (run : BuildRun) :
    (run.next settings).Keeps Effect.Mute run.Becomes := by
  unfold next
  cases recorded : run.status.taskRunName with
  | none => exact keeps_start recorded
  | some name => exact keeps_follow recorded

/-- A pass first looks the run up. Then it writes at most what the run becomes, and only if the run
is not done. -/
theorem advance_commits (settings : Settings) (ns name : String) :
    ∃ resume, advance settings ns name = .perform (.send (.getRun ns name)) resume ∧
      ∀ (good : BuildRun → Prop) (answer : Except RequestError (Option BuildRun)),
        (∀ run next, answer = .ok (some run) → run.status.isDone = false → run.Becomes next →
          good next) → (resume answer).Commits good := by
  rw [advance_eq]
  refine ⟨_, rfl, fun good answer becomes => ?_⟩
  cases answer with
  | error error => trivial
  | ok found =>
    cases found with
    | none => trivial
    | some run =>
      change (if run.status.isDone then pure () else do
        Pass.send (.updateRunStatus (← run.next settings)) : Pass Unit).Commits good
      split
      · exact Quiet.commits only_pure
      · next notDone =>
        refine commits_bind (keeps_next settings run) fun next follows => ?_
        exact commits_updateRunStatus (becomes run next rfl (by simpa using notDone) follows)

end BuildRun

end BuildController
