import BuildController.Proofs.Concurrency
import BuildController.Proofs.Provenance
import BuildController.Proofs.Repetition

/-! Two resyncs are enough. The first one checks all builds, starts all runs that can be started and
fails the others. The second one fails those whose task runs are missing and sees what the others
report. After that there is nothing more to do or to learn, and resyncs change nothing, not even a
time. -/
namespace BuildController

namespace Cluster

/-- All runs of the watched namespace are done or have a task run, and its builds have settled. -/
structure Begun (settings : Settings) (c : Cluster) : Prop where
  settled : c.Settled settings
  followed : ∀ key run, key.ns = settings.ns → c.runs.get? key = some run →
    run.status.isDone = true ∨ run.status.taskRunName.isSome

/-- The run is done, or it knows what its task run reports. -/
inductive Informs (c : Cluster) (run : BuildRun) : Prop
  | done (isDone : run.status.isDone = true) : Informs c run
  | known (recorded : run.status.taskRunName = some name)
      (found : c.taskRuns.get? ⟨run.metadata.namespaceName, name⟩ = some taskRun)
      (known : ∀ now, Observation.observe now run taskRun = run) : Informs c run

/-- No run of the watched namespace has anything to learn, and its builds have settled. -/
structure Steady (settings : Settings) (c : Cluster) : Prop where
  settled : c.Settled settings
  informs : ∀ key run, key.ns = settings.ns → c.runs.get? key = some run → c.Informs run

variable {settings : Settings} {c d : Cluster} {run : BuildRun} {key : ObjectKey}

theorem Steady.begun (steady : c.Steady settings) : c.Begun settings where
  settled := steady.settled
  followed key run ns stored := by
    cases steady.informs key run ns stored with
    | done isDone => exact .inl isDone
    | known recorded => exact .inr (Option.isSome_iff_exists.mpr ⟨_, recorded⟩)

theorem Proceeds.settled (settled : c.Settled settings) (proceeds : c.Proceeds settings d) :
    d.Settled settings :=
  settled.of_statuses proceeds.same proceeds.runs

theorem Filed.begun (filed : c.Filed) (resyncs : c.Resyncs settings d) : d.Begun settings := by
  obtain ⟨middle, reviews, filed', proceeds⟩ := filed.resynced resyncs
  have settled := reviews.settled filed
  exact ⟨proceeds.settled settled, fun key run => proceeds.follows filed' settled⟩

/-- Once all runs have begun, a resync is nothing but a phase of the runs. -/
theorem Begun.proceeds (filed : c.Filed) (begun : c.Begun settings)
    (resyncs : c.Resyncs settings d) : c.Proceeds settings d := by
  obtain ⟨middle, reviews, -, proceeds⟩ := filed.resynced resyncs
  cases begun.settled.reviews_eq filed reviews
  exact proceeds

theorem Begun.recorded (begun : c.Begun settings) (ns : key.ns = settings.ns)
    (stored : c.runs.get? key = some run) (notDone : run.status.isDone = false) :
    run.status.taskRunName.isSome :=
  (begun.followed key run ns stored).resolve_left (by simp [notDone])

/-- Once all runs have begun, no task run is created. -/
theorem Begun.taskRuns_eq (begun : c.Begun settings) (proceeds : c.Proceeds settings d) :
    d.taskRuns = c.taskRuns := by
  refine OrderedMap.ext_get? fun key => ?_
  cases stored : d.taskRuns.get? key with
  | some taskRun =>
    rcases proceeds.created key taskRun stored with old | ⟨-, owner, launches⟩
    · exact old.symm
    · cases launches with
      | intro watched present notDone unstarted _ _ =>
        have recorded := begun.recorded watched present notDone
        rw [unstarted] at recorded
        cases recorded
  | none =>
    refine (Option.eq_none_iff_forall_ne_some.mpr fun taskRun old => ?_).symm
    rw [proceeds.kept key taskRun old] at stored
    cases stored

/-- What became of a run that had begun is all that it can learn. -/
theorem Turns.informs (turns : c.Turns settings run d next)
    (recorded : run.status.taskRunName.isSome) : d.Informs next := by
  obtain ⟨name, recorded⟩ := Option.isSome_iff_exists.mp recorded
  obtain ⟨-, now, rfl⟩ | ⟨taskRun, now, found, rfl⟩ := turns.of_recorded recorded
  · exact .done ((run.failed_says now (.taskRunMissing name)).isDone_iff.mpr nofun)
  · cases notDone : (Observation.observe now run taskRun).status.isDone with
    | true => exact .done notDone
    | false =>
      have same := (Observation.observe_taskRunName now run taskRun).trans recorded
      refine .known same ?_ fun now' => Observation.observe_again now now' run taskRun
      rw [Observation.observe_eq]
      exact found

theorem Begun.steady (filed : c.Filed) (begun : c.Begun settings)
    (proceeds : c.Proceeds settings d) : d.Steady settings := by
  refine ⟨proceeds.settled begun.settled, fun key next ns stored => ?_⟩
  obtain ⟨run, present, ⟨done, rfl⟩ | ⟨notDone, ⟨unstarted, -⟩ | turns⟩⟩ :=
    proceeds.outcome filed ns stored
  · exact .done done
  · have recorded := begun.recorded ns present notDone
    rw [unstarted] at recorded
    cases recorded
  · exact turns.informs (begun.recorded ns present notDone)

/-- A run that has nothing more to learn is left as it is. -/
theorem Advanced.stored (advanced : c.Advanced settings run r d)
    (taskRuns : d.taskRuns = c.taskRuns) (informs : c.Informs run) :
    d.runs.get? run.metadata.key = some run := by
  cases advanced with
  | finished _ stored | deferred _ _ _ stored => exact stored
  | turned notDone turns stored =>
    cases informs with
    | done isDone =>
      rw [notDone] at isDone
      cases isDone
    | known recorded found known =>
      obtain ⟨missing, -⟩ | ⟨taskRun, now, found', rfl⟩ := turns.of_recorded recorded
      · rw [found] at missing
        cases missing
      · rw [taskRuns, found] at found'
        cases found'
        rw [known now] at stored
        exact stored

/-- When there is nothing more to learn, passes over runs change nothing. -/
theorem Steady.proceeds_eq (filed : c.Filed) (steady : c.Steady settings)
    (proceeds : c.Proceeds settings d) : d = c := by
  have taskRuns := steady.begun.taskRuns_eq proceeds
  have runs : d.runs = c.runs := by
    refine OrderedMap.ext_get? fun key => ?_
    by_cases ns : key.ns = settings.ns
    · cases stored : c.runs.get? key with
      | some run =>
        have own := filed.runs key run stored
        obtain ⟨r, advanced⟩ := proceeds.handled key run ns stored
        rw [← own]
        exact advanced.stored taskRuns (steady.informs key run ns stored)
      | none => exact proceeds.absent stored
    · exact proceeds.others key ns
  rw [proceeds.same, taskRuns, runs]

/-- After two resyncs every further one leaves all as it is, and there always is a further one. -/
theorem resyncs_converge (settings : Settings) (filed : c.Filed)
    (room : 1 ≤ settings.maxParallelReconciles) :
    (∀ d, Relation.ReflTransGen (Resyncs settings) c d → ∃ e, d.Resyncs settings e) ∧
      ∀ first second later, c.Resyncs settings first → first.Resyncs settings second →
        Relation.ReflTransGen (Resyncs settings) second later → later = second := by
  constructor
  · intro d path
    have filed' : d.Filed := by
      induction path with
      | refl => exact filed
      | tail _ resyncs ih => exact ih.resyncs resyncs
    exact filed'.exists_resyncs room
  · intro first second later resyncs resyncs' path
    have filed₁ := filed.resyncs resyncs
    have filed₂ := filed₁.resyncs resyncs'
    have begun := filed.begun resyncs
    have steady := begun.steady filed₁ (begun.proceeds filed₁ resyncs')
    induction path with
    | refl => rfl
    | tail _ last ih =>
      subst ih
      exact steady.proceeds_eq filed₂ (steady.begun.proceeds filed₂ last)

/-- Two runs come under their build. One gets a task run, and the other one takes over an old one,
which it sees to have ended in the second resync only. -/
theorem resyncs_converge_started :
    let build : Build :=
      { metadata := { name := "app", ns := some "default" }
        spec := { strategy := { name := "kaniko" }, output := { image := "registry/app" }
                  retention := some { atBuildDeletion := some true } } }
    let strategy : BuildStrategy :=
      { metadata := { name := "kaniko", ns := some "default" }, spec := {} }
    let run (name uid : String) : BuildRun :=
      { metadata := { name, ns := some "default", uid, labels := .ofList [(buildLabel, "app")] }
        spec := { build := { name := "app" } } }
    let reported : TaskRun :=
      { metadata := { name := "second-3d4e5", ns := some "default" }
        spec := { taskSpec := {} }
        status := { conditions := [.succeeded default .true "Succeeded" ""] } }
    let c := ((((Cluster.put {} (.build build)).put (.strategy strategy)).put
      (.run (run "first" "0a1b2c"))).put (.run (run "second" "3d4e5f"))).put (.taskRun reported)
    ∃ first second, c.Resyncs {} first ∧ first.Resyncs {} second ∧ second.Resyncs {} second ∧
      (first.taskRuns.get? ⟨"default", "first-0a1b2"⟩).isSome ∧
      (first.runs.entries.map fun entry =>
        (entry.2.metadata.ownerReferences.length, entry.2.status.isDone)) = [(1, false), (1, false)] ∧
      second.runs.entries.map (fun entry => entry.2.status.isDone) = [false, true] := by
  intro build strategy run reported c
  let machine := Session.machine default fun _ => ""
  let next (d : Cluster) : Cluster := (resync machine {} { cluster := d }).2.cluster
  have filed : c.Filed :=
    ((((filed_empty.put (.build build)).put (.strategy strategy)).put
      (.run (run "first" "0a1b2c"))).put (.run (run "second" "3d4e5f"))).put (.taskRun reported)
  have naming : c.Naming {} :=
    ((((naming_empty.put (.build build) trivial).put (.strategy strategy) trivial).put
      (.run (run "first" "0a1b2c")) ⟨by decide, rfl⟩).put (.run (run "second" "3d4e5f"))
      ⟨by decide, rfl⟩).put (.taskRun reported) trivial
  have resynced (d : Cluster) (filed : d.Filed) (naming : d.Naming {}) :
      d.Resyncs {} (next d) := by
    obtain ⟨passes, last, ran, resyncs⟩ : ∃ passes last,
        resync machine {} { cluster := d } = (.answer (.ok passes), last) ∧
          d.Resyncs {} last.cluster :=
      Naming.resync (Session.serves _ _) naming filed (by decide) ⟨rfl, rfl, rfl⟩
    have same : next d = last.cluster := by simp only [next, ran]
    rw [same]
    exact resyncs
  have resyncs := resynced c filed naming
  have resyncs' := resynced _ (filed.resyncs resyncs) (naming.resyncs filed resyncs)
  have still : (next (next c)).Resyncs {} (next (next c)) := by
    obtain ⟨further, same⟩ := resyncs_converge {} filed (by decide)
    obtain ⟨later, again⟩ := further _ (.tail (.single resyncs) resyncs')
    rwa [same _ _ _ resyncs resyncs' (.single again)] at again
  exact ⟨next c, next (next c), resyncs, resyncs', still, by decide +kernel, by decide +kernel,
    by decide +kernel⟩

end Cluster

end BuildController
