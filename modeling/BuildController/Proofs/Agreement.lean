import BuildController.Proofs.Round

/-! Resyncs agree. If the names of task runs are derived from their runs, no two runs compete for a
task run, and what a resync leaves behind depends on nothing but what the clock showed. -/
namespace BuildController

namespace Cluster

/-- Control planes that are equal but for times in the statuses of runs, as readings of clocks. -/
structure Alike (c d : Cluster) : Prop where
  same : d = { c with runs := d.runs }
  runs : ∀ key, Option.Rel (fun run other => ∃ now now', BuildRun.Retimed now now' run other)
    (c.runs.get? key) (d.runs.get? key)

/-- The runs of the watched namespace derive the names of their task runs, and they record no other
ones. -/
structure Naming (settings : Settings) (c : Cluster) : Prop where
  derives : ∀ key run, key.ns = settings.ns → c.runs.get? key = some run → run.Derives
  records : ∀ key run name, key.ns = settings.ns → c.runs.get? key = some run →
    run.status.taskRunName = some name → run.Names name

variable {settings : Settings} {c d d' : Cluster} {run : BuildRun} {key : ObjectKey}

theorem naming_empty : Naming settings {} where
  derives _ _ _ stored := by cases stored
  records _ _ _ _ stored := by cases stored

/-- The object is no run, or one that derives the name of its task run and does not yet have it. -/
def Object.Derives : Object → Prop
  | .run run => run.Derives ∧ run.status.taskRunName = none
  | _ => True

theorem Naming.put (naming : c.Naming settings) (object : Object) (own : object.Derives) :
    (c.put object).Naming settings := by
  cases object with
  | run new =>
    obtain ⟨derives, unstarted⟩ := own
    constructor
    · intro key run ns stored
      obtain rfl | stored := OrderedMap.eq_or_of_get?_insert stored
      · exact derives
      · exact naming.derives key run ns stored
    · intro key run name ns stored recorded
      obtain rfl | stored := OrderedMap.eq_or_of_get?_insert stored
      · cases unstarted.symm.trans recorded
      · exact naming.records key run name ns stored recorded
  | _ => exact ⟨naming.derives, naming.records⟩

theorem Naming.derived (naming : c.Naming settings) : c.Deriving settings := by
  intro key run taskRun stored launches
  cases launches with
  | intro watched stored' _ _ _ _ => exact naming.derives key run watched stored

theorem Naming.reviewed (naming : c.Naming settings) (reviewed : c.Reviewed d) :
    d.Naming settings := by
  constructor
  · intro key owned ns stored
    obtain ⟨run, present, same⟩ := reviewed.run_of stored
    rw [same]
    exact naming.derives key run ns present
  · intro key owned name ns stored recorded
    obtain ⟨run, present, same⟩ := reviewed.run_of stored
    rw [same] at recorded ⊢
    exact naming.records key run name ns present recorded

theorem Naming.proceeds (naming : c.Naming settings) (filed : c.Filed)
    (proceeds : c.Proceeds settings d) : d.Naming settings := by
  constructor
  · intro key next ns stored
    obtain ⟨run, present, turned⟩ := proceeds.run_of stored
    rw [turned]
    exact naming.derives key run ns present
  · intro key next name ns stored recorded
    obtain ⟨run, present, turned⟩ := proceeds.run_of stored
    obtain ⟨r, advanced⟩ := proceeds.handled key run ns present
    rw [← filed.runs key run present] at stored
    rw [turned]
    exact (advanced.names stored recorded).elim (naming.records key run name ns present) id

/-- The next resync finds such names again. -/
theorem Naming.resyncs (naming : c.Naming settings) (filed : c.Filed)
    (resyncs : c.Resyncs settings d) : d.Naming settings := by
  obtain ⟨middle, reviews, filed', proceeds⟩ := filed.resynced resyncs
  exact (naming.reviewed reviews.toReviewed).proceeds filed' proceeds

/-- A run that was started says what became of its task run. -/
theorem Turns.reports (turns : c.Turns settings run d next)
    (recorded : run.status.taskRunName = some name)
    (missing : c.taskRuns.get? ⟨run.metadata.namespaceName, name⟩ = none →
      d.taskRuns.get? ⟨run.metadata.namespaceName, name⟩ = none) :
    ∃ now, next =
      match d.taskRuns.get? ⟨run.metadata.namespaceName, name⟩ with
      | none => run.failed now (.taskRunMissing name)
      | some taskRun => Observation.observe now run taskRun := by
  obtain ⟨absent, now, rfl⟩ | ⟨taskRun, now, found, rfl⟩ := turns.of_recorded recorded
  · rw [missing absent]
    exact ⟨now, rfl⟩
  · rw [found]
    exact ⟨now, rfl⟩

theorem Turns.not_waits (turns : c.Turns settings run d next)
    (unstarted : run.status.taskRunName = none) : c.gate run ≠ .waits name := by
  intro waits
  obtain ⟨_, _, _, _, admits, -⟩ | ⟨_, _, fails, -⟩ := turns.of_unstarted unstarted
  · rw [admits] at waits
    cases waits
  · rw [fails] at waits
    cases waits

/-- A task run that a run could get is there afterwards, or another one of its name. -/
theorem Proceeds.present (naming : c.Naming settings)
    (proceeds : c.Proceeds settings d) (launches : c.Launches settings key taskRun) :
    (d.taskRuns.get? taskRun.metadata.key).isSome := by
  cases launches with
  | @intro run build strategy name watched stored notDone unstarted admits names =>
    have derives := naming.derives key run watched stored
    obtain ⟨r, advanced⟩ := proceeds.handled key run watched stored
    cases advanced with
    | finished done =>
      rw [notDone] at done
      cases done
    | deferred _ _ waits =>
      rw [admits] at waits
      cases waits
    | turned _ turns =>
      obtain ⟨_, _, name', _, -, names', present, -⟩ | ⟨_, _, fails, -⟩ :=
        turns.of_unstarted unstarted
      · cases names.unique derives names'
        exact present derives
      · rw [admits] at fails
        cases fails

/-- A task run that there is after one phase of the runs is there after any other. -/
theorem Proceeds.taskRuns_of (naming : c.Naming settings) (filed : c.Filed)
    (first : c.Proceeds settings d) (second : c.Proceeds settings d')
    (stored : d.taskRuns.get? key = some taskRun) : d'.taskRuns.get? key = some taskRun := by
  obtain old | ⟨rfl, owner, launches⟩ := first.created key taskRun stored
  · exact second.kept key taskRun old
  · obtain ⟨other, present⟩ := Option.isSome_iff_exists.mp (second.present naming launches)
    rw [present]
    obtain old | ⟨same, owner', launches'⟩ := second.created _ other present
    · rw [← first.kept _ other old, stored]
    · rw [(launches.unique filed naming.derived launches' same).2]

theorem Proceeds.taskRuns_eq (naming : c.Naming settings) (filed : c.Filed)
    (first : c.Proceeds settings d) (second : c.Proceeds settings d') :
    d'.taskRuns = d.taskRuns := by
  refine OrderedMap.ext_get? fun key => Option.ext fun taskRun => ?_
  exact ⟨second.taskRuns_of naming filed first, first.taskRuns_of naming filed second⟩

/-- The task run of a run that was started is not created again. -/
theorem Proceeds.missing (naming : c.Naming settings) (filed : c.Filed)
    (proceeds : c.Proceeds settings d) (ns : key.ns = settings.ns)
    (stored : c.runs.get? key = some run) (recorded : run.status.taskRunName = some name)
    (missing : c.taskRuns.get? ⟨run.metadata.namespaceName, name⟩ = none) :
    d.taskRuns.get? ⟨run.metadata.namespaceName, name⟩ = none := by
  refine Option.eq_none_iff_forall_ne_some.mpr fun taskRun created => ?_
  obtain old | ⟨same, owner, launches⟩ := proceeds.created _ taskRun created
  · rw [missing] at old
    cases old
  · cases launches with
    | @intro other _ _ name' watched stored' _ unstarted _ names =>
      obtain ⟨ns', here⟩ := ObjectKey.mk.inj same
      change other.metadata.namespaceName = run.metadata.namespaceName at ns'
      change name' = name at here
      subst here
      have owners := filed.owner_eq stored stored' (naming.derives key run ns stored)
        (naming.derives owner other watched stored')
        (naming.records key run name' ns stored recorded) names ns'
      subst owners
      cases stored.symm.trans stored'
      rw [unstarted] at recorded
      cases recorded

/-- What becomes of a run depends on nothing but the clock. -/
theorem Turns.retimed (derives : run.Derives) (first : c.Turns settings run d next)
    (second : c.Turns settings run d' next') (taskRuns : d'.taskRuns = d.taskRuns)
    (missing : ∀ name, run.status.taskRunName = some name →
      c.taskRuns.get? ⟨run.metadata.namespaceName, name⟩ = none →
      d.taskRuns.get? ⟨run.metadata.namespaceName, name⟩ = none) :
    ∃ now now', next.Retimed now now' next' := by
  cases recorded : run.status.taskRunName with
  | some name =>
    obtain ⟨now, rfl⟩ := first.reports recorded (missing name recorded)
    obtain ⟨now', rfl⟩ := second.reports recorded (taskRuns ▸ missing name recorded)
    rw [taskRuns]
    refine ⟨now, now', ?_⟩
    cases d.taskRuns.get? ⟨run.metadata.namespaceName, name⟩ with
    | none => exact run.retimed_failed _
    | some taskRun => exact Observation.retimed_observe run taskRun
  | none =>
    obtain ⟨_, _, name, now, admits, names, -, rfl⟩ | ⟨failure, now, fails, rfl⟩ :=
      first.of_unstarted recorded
    · obtain ⟨_, _, name', now', -, names', -, rfl⟩ | ⟨_, _, fails, -⟩ :=
        second.of_unstarted recorded
      · cases names.unique derives names'
        exact ⟨now, now', run.retimed_started name⟩
      · rw [admits] at fails
        cases fails
    · obtain ⟨_, _, _, _, admits, -⟩ | ⟨failure', now', fails', rfl⟩ :=
        second.of_unstarted recorded
      · rw [admits] at fails
        cases fails
      · cases fails.symm.trans fails'
        exact ⟨now, now', run.retimed_failed failure⟩

theorem Advanced.of_done (advanced : c.Advanced settings run r d)
    (done : run.status.isDone = true) : d.runs.get? run.metadata.key = some run := by
  cases advanced with
  | finished _ stored => exact stored
  | deferred notDone | turned notDone =>
    rw [notDone] at done
    cases done

theorem Advanced.of_waits (advanced : c.Advanced settings run r d)
    (unstarted : run.status.taskRunName = none) (waits : c.gate run = .waits name) :
    d.runs.get? run.metadata.key = some run := by
  cases advanced with
  | finished _ stored | deferred _ _ _ stored => exact stored
  | turned _ turns => exact (turns.not_waits unstarted waits).elim

theorem Advanced.retimed (derives : run.Derives) (first : c.Advanced settings run r d)
    (second : c.Advanced settings run r' d') (taskRuns : d'.taskRuns = d.taskRuns)
    (missing : ∀ name, run.status.taskRunName = some name →
      c.taskRuns.get? ⟨run.metadata.namespaceName, name⟩ = none →
      d.taskRuns.get? ⟨run.metadata.namespaceName, name⟩ = none) :
    Option.Rel (fun run other => ∃ now now', BuildRun.Retimed now now' run other)
      (d.runs.get? run.metadata.key) (d'.runs.get? run.metadata.key) := by
  cases first with
  | finished done stored =>
    rw [stored, second.of_done done]
    exact .some ⟨default, default, .refl run⟩
  | deferred _ unstarted waits stored =>
    rw [stored, second.of_waits unstarted waits]
    exact .some ⟨default, default, .refl run⟩
  | turned notDone turns stored =>
    cases second with
    | finished done =>
      rw [notDone] at done
      cases done
    | deferred _ unstarted waits => exact (turns.not_waits unstarted waits).elim
    | turned _ turns' stored' =>
      rw [stored, stored']
      exact .some (turns.retimed derives turns' taskRuns missing)

/-- Two phases of the runs that find the same leave the same behind, but for times. -/
theorem Proceeds.alike (naming : c.Naming settings) (filed : c.Filed)
    (first : c.Proceeds settings d) (second : c.Proceeds settings d') : d.Alike d' := by
  have taskRuns := first.taskRuns_eq naming filed second
  constructor
  · rw [second.same, taskRuns, first.same]
  · intro key
    cases stored : c.runs.get? key with
    | none =>
      rw [first.absent stored, second.absent stored]
      exact .none
    | some run =>
      by_cases ns : key.ns = settings.ns
      · obtain ⟨r, advanced⟩ := first.handled key run ns stored
        obtain ⟨r', advanced'⟩ := second.handled key run ns stored
        rw [← filed.runs key run stored]
        exact advanced.retimed (naming.derives key run ns stored) advanced' taskRuns
          fun name => first.missing naming filed ns stored
      · rw [first.others key ns, second.others key ns, stored]
        exact .some ⟨default, default, .refl run⟩

/-- If all names are derived, all resyncs leave the same behind, but for times. -/
theorem Naming.alike (naming : c.Naming settings) (filed : c.Filed)
    (first : c.Resyncs settings d) (second : c.Resyncs settings d') : d.Alike d' := by
  obtain ⟨middle, reviews, filed', proceeds⟩ := filed.resynced first
  obtain ⟨middle', reviews', -, proceeds'⟩ := filed.resynced second
  cases reviews.unique filed reviews'
  exact proceeds.alike (naming.reviewed reviews.toReviewed) filed' proceeds'

end Cluster

end BuildController
