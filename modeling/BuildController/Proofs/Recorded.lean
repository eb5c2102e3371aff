import BuildController.Proofs.Recovery
import BuildController.Proofs.System

/-! The task run that a first pass records. The pass names it twice, once to look it up and to
record it and once to create it. The two names are the same if they are derived from the run, so the
next pass finds what was recorded. A run whose identifier is too short draws both names: the task
run can then be there under a name that nobody recorded, and the next pass reports the loss of
another one that never was. -/
namespace BuildController

variable {hazards : Hazards} {c d : Cluster} {run next : BuildRun}

/-- What a run becomes that looks for its recorded task run. -/
def BuildRun.resumed (run : BuildRun) (now : Readings) (name : String) : Option TaskRun → BuildRun
  | none => run.failed now (.taskRunMissing name)
  | some taskRun => Observation.observe now run taskRun

namespace Cluster

/-- A pass over a run that records a task run has one way to go on, whatever the clock shows. -/
theorem Decides.recorded_iff (recorded : run.status.taskRunName = some name) :
    c.Decides settings run next prepared ↔ prepared = c ∧ ∃ now,
      next = run.resumed now name (c.taskRuns.get? ⟨run.metadata.namespaceName, name⟩) := by
  constructor
  · intro decides
    obtain ⟨rfl, now, rfl⟩ := decides.of_recorded recorded
    refine ⟨rfl, now, ?_⟩
    cases prepared.taskRuns.get? ⟨run.metadata.namespaceName, name⟩ <;> rfl
  · rintro ⟨rfl, now, rfl⟩
    cases found : prepared.taskRuns.get? ⟨run.metadata.namespaceName, name⟩ with
    | none => exact .lost recorded found now
    | some taskRun => exact .observed recorded found now

/-- A status with the name of a task run comes from a start, unless it had the name before. -/
theorem Decides.of_named (decides : c.Decides settings run next prepared)
    (unstarted : run.status.taskRunName = none) (named : next.status.taskRunName = some name) :
    ∃ now, c.Prepares settings run name prepared ∧ next = run.started now name := by
  obtain ⟨name', now, prepares, rfl⟩ | ⟨failure, now, -, rfl, -⟩ := decides.of_unstarted unstarted
  · cases named
    exact ⟨now, prepares, rfl⟩
  · have kept : (run.failed now failure).status.taskRunName = run.status.taskRunName := rfl
    rw [kept, unstarted] at named
    cases named

/-- The recorded name is taken, or it was drawn and the task run was created under another one. -/
theorem Ensures.present_or (ensures : c.Ensures settings run name build strategy prepared) :
    (∃ taskRun, prepared.taskRuns.get? ⟨run.metadata.namespaceName, name⟩ = some taskRun) ∨
      prepared.taskRuns.get? ⟨run.metadata.namespaceName, name⟩ = none ∧
        ∃ fresh ≠ name, run.Names fresh ∧
          c.taskRuns.get? ⟨run.metadata.namespaceName, fresh⟩ = none ∧
          prepared = c.withTaskRun (TaskRun.plan settings fresh build run strategy.spec) := by
  cases ensures with
  | found present => exact .inl ⟨_, present⟩
  | @created fresh absent names free =>
    by_cases same : fresh = name
    · subst same
      exact .inl ⟨_, OrderedMap.get?_insert_self _ _ _⟩
    · refine .inr ⟨?_, fresh, same, names, free, rfl⟩
      refine (OrderedMap.get?_insert_of_ne _ _ ?_).trans absent
      intro taken
      exact same (ObjectKey.mk.inj taken).2.symm

end Cluster

namespace BuildRun

/-- Without hazards, the pass over a started run writes what follows from the recorded task run. -/
theorem advance_recorded_iff (stored : d.runs.get? run.metadata.key = some run)
    (notDone : run.status.isDone = false) (recorded : run.status.taskRunName = some name)
    (found : d.taskRuns.get? ⟨run.metadata.namespaceName, name⟩ = found?) :
    (advance settings run.metadata.namespaceName run.metadata.name).Ends (Cluster.Meets .calm) d r
        after ↔
      r = .ok () ∧ ∃ now, after = d.withRun (run.resumed now name found?) := by
  subst found
  rw [advance_calm_iff stored]
  constructor
  · intro advances
    obtain ⟨done, -⟩ | ⟨-, next, prepared, decides, rfl, rfl⟩ | ⟨-, unstarted, -⟩ :=
      advances.of_calm
    · rw [notDone] at done
      cases done
    · obtain ⟨rfl, now, rfl⟩ := (Cluster.Decides.recorded_iff recorded).mp decides
      exact ⟨rfl, now, rfl⟩
    · rw [recorded] at unstarted
      cases unstarted
  · rintro ⟨rfl, now, rfl⟩
    exact .written notDone ((Cluster.Decides.recorded_iff recorded).mpr ⟨rfl, now, rfl⟩)

/-- A first pass that succeeds with the name of a task run in the status of the run has stored a
started run over what it prepared. -/
theorem advance_named (stored : c.runs.get? run.metadata.key = some run)
    (unstarted : run.status.taskRunName = none)
    (ended : (advance settings run.metadata.namespaceName run.metadata.name).Ends
      (Cluster.Meets hazards) c (.ok ()) d)
    (written : d.runs.get? run.metadata.key = some next)
    (named : next.status.taskRunName = some name) :
    ∃ prepared now, c.Prepares settings run name prepared ∧ next = run.started now name ∧
      d = prepared.withRun next := by
  have kept (same : d = c) : next = run := by
    subst same
    exact Option.some.inj (written.symm.trans stored)
  cases advance_only stored ended with
  | finished =>
    cases kept rfl
    rw [unstarted] at named
    cases named
  | @written made prepared notDone decides =>
    have key : made.metadata.key = run.metadata.key := by rw [decides.eq]
    have same : (prepared.withRun made).runs.get? run.metadata.key = some made :=
      key ▸ OrderedMap.get?_insert_self _ _ _
    cases written.symm.trans same
    obtain ⟨now, prepares, rfl⟩ := decides.of_named unstarted named
    exact ⟨prepared, now, prepares, rfl, rfl⟩

/-- Whatever comes between a first pass and its control plane, if it succeeds and records a task
run, then the task run of that name is there, and the next pass without hazards observes it. Only a
run whose identifier is too short can get a task run of another name instead, and then the next pass
without hazards ends with the recorded one missing. -/
theorem recorded_taskRun (keyed : c.Keyed) (settings : Settings)
    (stored : c.runs.get? key = some run) (unstarted : run.status.taskRunName = none)
    (ended : (advance settings key.ns key.name).Ends (Cluster.Meets hazards) c (.ok ()) d)
    (written : d.runs.get? key = some next) (named : next.status.taskRunName = some name) :
    (∃ taskRun, d.taskRuns.get? ⟨key.ns, name⟩ = some taskRun ∧
      ∀ r after, (advance settings key.ns key.name).Ends (Cluster.Meets .calm) d r after ↔
        r = .ok () ∧ ∃ now, after = d.withRun (Observation.observe now next taskRun)) ∨
    ¬ run.Derives ∧ d.taskRuns.get? ⟨key.ns, name⟩ = none ∧
      (∃ fresh ≠ name, ∃ taskRun, c.taskRuns.get? ⟨key.ns, fresh⟩ = none ∧
        d.taskRuns.get? ⟨key.ns, fresh⟩ = some taskRun) ∧
      ∀ r after, (advance settings key.ns key.name).Ends (Cluster.Meets .calm) d r after ↔
        r = .ok () ∧ ∃ now, after = d.withRun (next.failed now (.taskRunMissing name)) := by
  cases keyed key run stored
  obtain ⟨prepared, now, prepares, rfl, rfl⟩ := advance_named stored unstarted ended written named
  have notDone : (run.started now name).status.isDone = false := by
    rw [Bool.eq_false_iff]
    exact fun done => (run.started_says now name).isDone_iff.mp done rfl
  obtain ⟨-, build, strategy, -, names, ensures⟩ := prepares
  -- The next pass is one over the started run, which has the key of the run.
  obtain ⟨taskRun, present⟩ | ⟨absent, fresh, other, drawn, free, rfl⟩ := ensures.present_or
  · left
    have found : (prepared.withRun (run.started now name)).taskRuns.get?
        ⟨run.metadata.namespaceName, name⟩ = some taskRun := present
    refine ⟨taskRun, found, ?_⟩
    intro r after
    exact advance_recorded_iff written notDone rfl found
  · right
    let created := c.withTaskRun (TaskRun.plan settings fresh build run strategy.spec)
    have missing : (created.withRun (run.started now name)).taskRuns.get?
        ⟨run.metadata.namespaceName, name⟩ = none := absent
    refine ⟨?_, missing, ⟨fresh, other, _, free, OrderedMap.get?_insert_self _ _ _⟩, ?_⟩
    · intro derives
      exact other (names.unique derives drawn).symm
    · intro r after
      exact advance_recorded_iff written notDone rfl missing

/-- The name of this run is derived, so its task run is found again. -/
theorem recorded_taskRun_derived :
    let run : BuildRun :=
      { metadata := { name := "run", uid := "0a1b2c" }, spec := { build := { name := "app" } } }
    let build : Build :=
      { metadata := { name := "app" }
        spec := { strategy := { name := "kaniko" }, output := { image := "registry/app" } }
        status := { registered := some .true } }
    let strategy : BuildStrategy := { metadata := { name := "kaniko" }, spec := {} }
    let c := (((Cluster.put {} (.build build)).put (.strategy strategy)).put (.run run))
    let next := run.started default "run-0a1b2"
    ∃ d, (advance {} "" "run").Ends (Cluster.Meets .calm) c (.ok ()) d ∧
      d.runs.get? ⟨"", "run"⟩ = some next ∧ ∃ taskRun, ∀ r after,
        (advance {} "" "run").Ends (Cluster.Meets .calm) d r after ↔
          r = .ok () ∧ ∃ now, after = d.withRun (Observation.observe now next taskRun) := by
  intro run build strategy c next
  have keyed : c.Keyed := Cluster.keyed_put (Cluster.keyed_put (Cluster.keyed_put
    Cluster.keyed_empty _) _) _
  have stored : c.runs.get? ⟨"", "run"⟩ = some run := OrderedMap.get?_insert_self _ _ _
  have suffix : TaskRunPlan.nameSuffix? run.metadata.uid = some "0a1b2" := by decide
  have names : run.Names "run-0a1b2" := .of_suffix suffix
  let prepared := c.withTaskRun (TaskRun.plan {} "run-0a1b2" build run strategy.spec)
  have prepares : c.Prepares {} run "run-0a1b2" prepared :=
    ⟨rfl, build, strategy, rfl, names, .created rfl names rfl⟩
  have ended : (advance {} "" "run").Ends (Cluster.Meets .calm) c (.ok ())
      (prepared.withRun next) := ends_advance_written stored rfl (.started prepares default)
  have written : (prepared.withRun next).runs.get? run.metadata.key = some next :=
    OrderedMap.get?_insert_self _ _ _
  refine ⟨_, ended, written, ?_⟩
  obtain ⟨taskRun, -, again⟩ | ⟨short, -⟩ :=
    recorded_taskRun keyed {} stored rfl ended written rfl
  · exact ⟨taskRun, again⟩
  · have derives : run.Derives := by decide
    exact (short derives).elim

/-- A run without an identifier draws one name to record and another one to create its task run. The
next pass without hazards reports that the recorded one is missing. -/
theorem recorded_taskRun_absent :
    let run : BuildRun := { metadata := { name := "run" }, spec := { build := { name := "app" } } }
    let build : Build :=
      { metadata := { name := "app" }
        spec := { strategy := { name := "kaniko" }, output := { image := "registry/app" } }
        status := { registered := some .true } }
    let strategy : BuildStrategy := { metadata := { name := "kaniko" }, spec := {} }
    let c := (((Cluster.put {} (.build build)).put (.strategy strategy)).put (.run run))
    ∃ d next, (advance {} "" "run").Ends (Cluster.Meets .calm) c (.ok ()) d ∧
      d.runs.get? ⟨"", "run"⟩ = some next ∧
      next.status.taskRunName = some "run-7k2pq" ∧ d.taskRuns.get? ⟨"", "run-7k2pq"⟩ = none ∧
      (advance {} "" "run").Ends (Cluster.Meets .calm) d (.ok ())
        (d.withRun (next.failed default (.taskRunMissing "run-7k2pq"))) := by
  intro run build strategy c
  let next := run.started default "run-7k2pq"
  let prepared := c.withTaskRun (TaskRun.plan {} "run-x41bz" build run strategy.spec)
  have stored : c.runs.get? run.metadata.key = some run := OrderedMap.get?_insert_self _ _ _
  have recorded : run.Names "run-7k2pq" := ⟨"7k2pq", by decide⟩
  have created : run.Names "run-x41bz" := ⟨"x41bz", by decide⟩
  have prepares : c.Prepares {} run "run-7k2pq" prepared :=
    ⟨rfl, build, strategy, rfl, recorded, .created rfl created rfl⟩
  have written : (prepared.withRun next).runs.get? next.metadata.key = some next :=
    OrderedMap.get?_insert_self _ _ _
  refine ⟨prepared.withRun next, next, ?_, written, rfl, rfl, ?_⟩
  · exact ends_advance_written stored rfl (.started prepares default)
  · exact (advance_recorded_iff written rfl rfl rfl).mpr ⟨rfl, default, rfl⟩

end BuildRun

end BuildController
