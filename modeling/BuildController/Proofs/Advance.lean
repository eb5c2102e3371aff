import BuildController.Pass.Advance
import BuildController.Proofs.Bindings
import BuildController.Proofs.Gate
import BuildController.Proofs.Status

/-! Everything that a pass over a stored run can do to the control plane, under any hazards: it
leaves alone a run that is done, it writes the status that follows from what it finds, or it ends
with an error after nothing but the task run of the run was created. -/
namespace BuildController

instance : Inhabited Instant where
  default := ⟨⟨1970, 1, 1, by decide, by decide, by decide⟩, 0, 0, 0, 0, by decide, by decide,
    by decide, by decide⟩

instance : Inhabited Readings := ⟨default, default⟩

namespace BuildRun

/-- The names that the task run of a run can get, a single one if it is derived. -/
def Names (run : BuildRun) (name : String) : Prop :=
  match TaskRunPlan.nameSuffix? run.metadata.uid with
  | some suffix => name = TaskRunPlan.nameWith run suffix
  | none => ∃ suffix, name = TaskRunPlan.nameWith run suffix

theorem Names.of_suffix {run : BuildRun}
    (derived : TaskRunPlan.nameSuffix? run.metadata.uid = some suffix) :
    run.Names (TaskRunPlan.nameWith run suffix) := by
  rw [Names, derived]

/-- What a pass makes of a run that is not done. -/
def next (settings : Settings) (run : BuildRun) : Pass BuildRun :=
  match run.status.taskRunName with
  | none => run.start settings
  | some taskRun => run.follow taskRun

theorem advance_eq : advance settings ns name = (do
    match ← Pass.send (.getRun ns name) with
    | none => return ()
    | some run =>
      if run.status.isDone then return ()
      else do Pass.send (.updateRunStatus (← run.next settings))) := by
  unfold advance
  refine congrArg (Pass.send (.getRun ns name) >>= ·) (funext fun found => ?_)
  cases found with
  | none => rfl
  | some run =>
    dsimp only [next]
    cases run.status.taskRunName <;> rfl

end BuildRun

namespace Cluster

/-- The control plane with a further task run, or another one under its name. -/
def withTaskRun (c : Cluster) (taskRun : TaskRun) : Cluster :=
  { c with taskRuns := c.taskRuns.insert taskRun.metadata.key taskRun }

/-- The control plane with another run under its name. -/
def withRun (c : Cluster) (run : BuildRun) : Cluster :=
  { c with runs := c.runs.insert run.metadata.key run }

/-- There is a task run of the name that was looked up, or there is none and one is created. If the
name is no derived one, the new task run can have another. -/
inductive Ensures (settings : Settings) (c : Cluster) (run : BuildRun) (looked : String)
    (build : Build) (strategy : BuildStrategy) : Cluster → Prop
  | found (present : c.taskRuns.get? ⟨run.metadata.namespaceName, looked⟩ = some taskRun) :
      Ensures settings c run looked build strategy c
  | created (absent : c.taskRuns.get? ⟨run.metadata.namespaceName, looked⟩ = none)
      (names : run.Names fresh)
      (free : c.taskRuns.get? ⟨run.metadata.namespaceName, fresh⟩ = none) :
      Ensures settings c run looked build strategy
        (c.withTaskRun (TaskRun.plan settings fresh build run strategy.spec))

/-- The gate admits a run that was not started, and its task run is there. -/
def Prepares (settings : Settings) (c : Cluster) (run : BuildRun) (name : String)
    (prepared : Cluster) : Prop :=
  run.status.taskRunName = none ∧ ∃ build strategy, c.gate run = .admits (build, strategy) ∧
    run.Names name ∧ c.Ensures settings run name build strategy prepared

/-- What a run that is not done becomes, and the control plane just before its status is written. -/
inductive Decides (settings : Settings) (c : Cluster) (run : BuildRun) :
    BuildRun → Cluster → Prop
  | started (prepares : c.Prepares settings run name prepared) (now : Readings) :
      Decides settings c run (run.started now name) prepared
  | failed {failure : RunFailure} (unstarted : run.status.taskRunName = none)
      (fails : c.gate run = .fails failure) (now : Readings) :
      Decides settings c run (run.failed now failure) c
  | lost (recorded : run.status.taskRunName = some name)
      (missing : c.taskRuns.get? ⟨run.metadata.namespaceName, name⟩ = none) (now : Readings) :
      Decides settings c run (run.failed now (.taskRunMissing name)) c
  | observed (recorded : run.status.taskRunName = some name)
      (found : c.taskRuns.get? ⟨run.metadata.namespaceName, name⟩ = some taskRun) (now : Readings) :
      Decides settings c run (Observation.observe now run taskRun) c

/-- How a pass over a stored run can end, and the control plane that it leaves behind. -/
inductive Advances (hazards : Hazards) (settings : Settings) (c : Cluster) (run : BuildRun) :
    Except PassError Unit → Cluster → Prop
  | finished (isDone : run.status.isDone = true) : Advances hazards settings c run (.ok ()) c
  | written (notDone : run.status.isDone = false) (decides : c.Decides settings run next prepared) :
      Advances hazards settings c run (.ok ()) (prepared.withRun next)
  | deferred (notDone : run.status.isDone = false) (unstarted : run.status.taskRunName = none)
      (waits : c.gate run = .waits name) :
      Advances hazards settings c run (.error (.notRegistered name)) c
  | interrupted (caused : hazards.Causes error) : Advances hazards settings c run (.error error) c
  | aborted (notDone : run.status.isDone = false) (caused : hazards.Causes error)
      (prepares : c.Prepares settings run name prepared) :
      Advances hazards settings c run (.error error) prepared
  | lost (notDone : run.status.isDone = false) (caused : hazards.Causes error)
      (loses : hazards.losses (.updateRunStatus next))
      (decides : c.Decides settings run next prepared) :
      Advances hazards settings c run (.error error) (prepared.withRun next)

end Cluster

variable {hazards : Hazards} {c : Cluster} {run : BuildRun}

namespace Cluster

theorem Ensures.runs (ensures : Ensures settings c run looked build strategy prepared) :
    prepared.runs = c.runs := by
  cases ensures <;> rfl

theorem Decides.runs (decides : Decides settings c run next prepared) :
    prepared.runs = c.runs := by
  cases decides with
  | started prepares now =>
    obtain ⟨_, build, strategy, _, _, ensures⟩ := prepares
    exact ensures.runs
  | failed | lost | observed => rfl

theorem Decides.eq (decides : Decides settings c run next prepared) :
    next = { run with status := next.status } := by
  cases decides with
  | started | failed | lost => rfl
  | observed => exact Observation.observe_eq _ _ _

theorem Decides.of_unstarted (decides : c.Decides settings run next prepared)
    (unstarted : run.status.taskRunName = none) :
    (∃ name now, c.Prepares settings run name prepared ∧ next = run.started now name) ∨
      ∃ failure now, c.gate run = .fails failure ∧ next = run.failed now failure ∧
        prepared = c := by
  cases decides with
  | started prepares now => exact .inl ⟨_, now, prepares, rfl⟩
  | failed _ fails now => exact .inr ⟨_, now, fails, rfl, rfl⟩
  | lost recorded | observed recorded =>
    rw [unstarted] at recorded
    cases recorded

theorem Decides.of_recorded (decides : c.Decides settings run next prepared)
    (recorded : run.status.taskRunName = some name) :
    prepared = c ∧ ∃ now, next =
      match c.taskRuns.get? ⟨run.metadata.namespaceName, name⟩ with
      | none => run.failed now (.taskRunMissing name)
      | some taskRun => Observation.observe now run taskRun := by
  cases decides with
  | started prepares =>
    rw [prepares.1] at recorded
    cases recorded
  | failed unstarted =>
    rw [unstarted] at recorded
    cases recorded
  | lost recorded' missing now =>
    rw [recorded] at recorded'
    cases recorded'
    rw [missing]
    exact ⟨rfl, now, rfl⟩
  | observed recorded' found now =>
    rw [recorded] at recorded'
    cases recorded'
    rw [found]
    exact ⟨rfl, now, rfl⟩

theorem Decides.not_waits (decides : c.Decides settings run next prepared)
    (unstarted : run.status.taskRunName = none) : c.gate run ≠ .waits name := by
  intro waits
  obtain ⟨_, _, prepares, _⟩ | ⟨failure, _, fails, _⟩ := decides.of_unstarted unstarted
  · obtain ⟨_, _, _, admits, _⟩ := prepares
    rw [admits] at waits
    cases waits
  · rw [fails] at waits
    cases waits

/-- Without hazards, a pass leaves the run alone or writes what was decided. -/
theorem Advances.of_calm (advances : c.Advances .calm settings run r after) :
    (run.status.isDone = true ∧ r = .ok () ∧ after = c) ∨
      (run.status.isDone = false ∧ ∃ next prepared, c.Decides settings run next prepared ∧
        r = .ok () ∧ after = prepared.withRun next) ∨
      (run.status.isDone = false ∧ run.status.taskRunName = none ∧
        ∃ name, c.gate run = .waits name ∧ r = .error (.notRegistered name) ∧ after = c) := by
  cases advances with
  | finished done => exact .inl ⟨done, rfl, rfl⟩
  | written notDone decides => exact .inr (.inl ⟨notDone, _, _, decides, rfl, rfl⟩)
  | deferred notDone unstarted waits =>
    exact .inr (.inr ⟨notDone, unstarted, _, waits, rfl, rfl⟩)
  | interrupted caused => exact (Hazards.not_calm_causes caused).elim
  | aborted _ caused _ => exact (Hazards.not_calm_causes caused).elim
  | lost _ caused _ _ => exact (Hazards.not_calm_causes caused).elim

theorem answer_updateRunStatus {c : Cluster} {run next : BuildRun}
    (stored : c.runs.get? run.metadata.key = some run)
    (same : next = { run with status := next.status }) :
    c.answer (.updateRunStatus next) = (.ok (), c.withRun next) := by
  have key : next.metadata.key = run.metadata.key := by rw [same]
  simp only [answer, modify?, key, stored, commit, withRun]
  rw [← same]

theorem answer_createTaskRun_free {c : Cluster} {taskRun : TaskRun}
    (free : c.taskRuns.get? taskRun.metadata.key = none) :
    c.answer (.createTaskRun taskRun) = (.ok (), c.withTaskRun taskRun) := by
  simp [answer, OrderedMap.contains, free, commit, withTaskRun]

theorem answer_createTaskRun_taken {c : Cluster} {taskRun taken : TaskRun}
    (present : c.taskRuns.get? taskRun.metadata.key = some taken) :
    c.answer (.createTaskRun taskRun) = (.error (.conflict taskRun.metadata.name), c) := by
  simp [answer, OrderedMap.contains, present, commit]

end Cluster

namespace BuildRun

theorem ends_taskRunName : run.taskRunName.Ends (Cluster.Meets hazards) c r after ↔
    ∃ name, run.Names name ∧ r = .ok name ∧ after = c := by
  unfold taskRunName Names
  cases TaskRunPlan.nameSuffix? run.metadata.uid with
  | some suffix => simp
  | none =>
    constructor
    · rintro ⟨suffix, _, rfl, rfl, rfl⟩
      exact ⟨_, ⟨suffix, rfl⟩, rfl, rfl⟩
    · rintro ⟨_, ⟨suffix, rfl⟩, rfl, rfl⟩
      exact ⟨suffix, _, rfl, rfl, rfl⟩

theorem ends_taskRunName_bind {next : String → Pass α} :
    (run.taskRunName >>= next).Ends (Cluster.Meets hazards) c r after ↔
      ∃ name, run.Names name ∧ (next name).Ends (Cluster.Meets hazards) c r after := by
  rw [Pass.ends_bind]
  constructor
  · rintro (⟨name, middle, named, rest⟩ | ⟨error, unnamed, _⟩)
    · obtain ⟨_, names, same, rfl⟩ := ends_taskRunName.mp named
      cases same
      exact ⟨name, names, rest⟩
    · obtain ⟨_, _, impossible, _⟩ := ends_taskRunName.mp unnamed
      cases impossible
  · rintro ⟨name, names, rest⟩
    exact .inl ⟨name, c, ends_taskRunName.mpr ⟨name, names, rfl, rfl⟩, rest⟩

theorem ends_ensureTaskRun {build : Build} {strategy : BuildStrategy}
    (ensures : c.Ensures settings run name build strategy prepared) :
    (run.ensureTaskRun settings name build strategy).Ends (Cluster.Meets hazards) c (.ok ())
      prepared := by
  refine (Pass.reads_send rfl).ends_bind ?_
  cases ensures with
  | found present =>
    rw [present]
    exact Pass.ends_pure.mpr ⟨rfl, rfl⟩
  | created absent names free =>
    rw [absent]
    refine ends_taskRunName_bind.mpr ⟨_, names, ?_⟩
    exact Pass.ends_request.mpr (.inl ⟨(), Cluster.answer_createTaskRun_free free, rfl⟩)

theorem createTaskRun_only {build : Build} {strategy : BuildStrategy} {r : Except PassError Unit}
    (absent : c.taskRuns.get? ⟨run.metadata.namespaceName, name⟩ = none) (names : run.Names fresh)
    (ended : (Pass.send (.createTaskRun
      (TaskRun.plan settings fresh build run strategy.spec))).Ends (Cluster.Meets hazards) c r
        after) :
    (r = .ok () ∧ c.Ensures settings run name build strategy after) ∨
      ∃ error, r = .error error ∧ hazards.Causes error ∧
        (after = c ∨ c.Ensures settings run name build strategy after) := by
  cases free : c.taskRuns.get? ⟨run.metadata.namespaceName, fresh⟩ with
  | none =>
    have answered : c.answer (.createTaskRun
        (TaskRun.plan settings fresh build run strategy.spec)) = _ :=
      Cluster.answer_createTaskRun_free free
    have created : c.Ensures settings run name build strategy _ := .created absent names free
    rcases Pass.ends_request.mp ended with ⟨_, answer, rfl⟩ | ⟨fails, effect, error, rfl⟩
    · rw [answered] at answer
      cases answer
      exact .inl ⟨rfl, created⟩
    · rw [answered] at effect
      refine .inr ⟨_, rfl, fails, effect.imp_right ?_⟩
      rintro ⟨_, rfl⟩
      exact created
  | some taken =>
    have answered : c.answer (.createTaskRun
        (TaskRun.plan settings fresh build run strategy.spec)) = _ :=
      Cluster.answer_createTaskRun_taken free
    rcases Pass.ends_request.mp ended with ⟨_, answer, rfl⟩ | ⟨fails, effect, error, rfl⟩
    · rw [answered] at answer
      cases answer
    · rw [answered] at effect
      refine .inr ⟨_, rfl, fails, .inl ?_⟩
      rcases effect with same | ⟨_, same⟩
      · exact same
      · exact same

/-- Whatever else happens, a task run is created only under a free name of the run. -/
theorem ensureTaskRun_only {build : Build} {strategy : BuildStrategy}
    (ended : (run.ensureTaskRun settings name build strategy).Ends (Cluster.Meets hazards) c r
      after) :
    (r = .ok () ∧ c.Ensures settings run name build strategy after) ∨
      ∃ error, r = .error error ∧ hazards.Causes error ∧
        (after = c ∨ c.Ensures settings run name build strategy after) := by
  obtain rest | ⟨error, rfl, caused, rfl⟩ := (Pass.reads_send rfl).bind_only ended
  · cases present : c.taskRuns.get? ⟨run.metadata.namespaceName, name⟩ with
    | some taskRun =>
      rw [present] at rest
      obtain ⟨rfl, rfl⟩ := Pass.ends_pure.mp rest
      exact .inl ⟨rfl, .found present⟩
    | none =>
      rw [present] at rest
      obtain ⟨fresh, names, created⟩ := ends_taskRunName_bind.mp rest
      exact createTaskRun_only present names created
  · exact .inr ⟨error, rfl, caused, .inl rfl⟩

/-- Nothing but the readings comes of the clock. -/
theorem ends_stamped {read : Pass Readings} (reads : read.ReadsClock) {f : Readings → α} :
    (do return f (← read)).Ends (Cluster.Meets hazards) c r after ↔
      ∃ now, r = .ok (f now) ∧ after = c := by
  cases reads
  all_goals
    constructor
    · rintro ⟨_, _, rfl, _, _, rfl, rfl, rfl⟩
      exact ⟨_, rfl, rfl⟩
    · rintro ⟨now, rfl, rfl⟩
      exact ⟨_, _, rfl, _, _, rfl, rfl, rfl⟩

theorem ends_next {next : BuildRun} (decides : c.Decides settings run next prepared) :
    (run.next settings).Ends (Cluster.Meets hazards) c (.ok next) prepared := by
  have resolved : run.resolve.Reads c (c.gate run).resolution := reads_resolve
  cases decides with
  | started prepares now =>
    obtain ⟨unstarted, build, strategy, admits, names, ensures⟩ := prepares
    rw [admits] at resolved
    simp only [BuildRun.next, unstarted, start]
    refine resolved.ends_bind ?_
    refine Pass.reads_checkpoint.ends_bind ?_
    refine ends_taskRunName_bind.mpr ⟨_, names, ?_⟩
    refine Pass.ends_bind.mpr (.inl ⟨(), prepared, ends_ensureTaskRun ensures, ?_⟩)
    exact (ends_stamped .atStart).mpr ⟨now, rfl, rfl⟩
  | failed unstarted fails now =>
    rw [fails] at resolved
    simp only [BuildRun.next, unstarted, start]
    exact resolved.ends_bind ((ends_stamped .atEnd).mpr ⟨now, rfl, rfl⟩)
  | lost recorded missing now =>
    simp only [BuildRun.next, recorded, follow]
    refine (Pass.reads_send rfl).ends_bind ?_
    rw [missing]
    exact (ends_stamped .atEnd).mpr ⟨now, rfl, rfl⟩
  | observed recorded found now =>
    simp only [BuildRun.next, recorded, follow]
    refine (Pass.reads_send rfl).ends_bind ?_
    rw [found]
    exact (ends_stamped .atEnd).mpr ⟨now, rfl, rfl⟩

/-- A run that the gate admits is started, or a hazard ends the pass, perhaps after the task run was
created. -/
theorem launch_only (notDone : run.status.isDone = false)
    (unstarted : run.status.taskRunName = none) (admits : c.gate run = .admits (build, strategy))
    (ended : (do
      Pass.checkpoint
      let name ← run.taskRunName
      run.ensureTaskRun settings name build strategy
      return run.started (← Pass.readStart) name).Ends (Cluster.Meets hazards) c r after) :
    (∃ next, r = .ok next ∧ c.Decides settings run next after) ∨
      ∃ error, r = .error error ∧ c.Advances hazards settings run (.error error) after := by
  obtain rest | ⟨error, rfl, caused, rfl⟩ := Pass.reads_checkpoint.bind_only ended
  · obtain ⟨name, names, rest⟩ := ends_taskRunName_bind.mp rest
    have prepares {prepared} (ensures : c.Ensures settings run name build strategy prepared) :
        c.Prepares settings run name prepared :=
      ⟨unstarted, build, strategy, admits, names, ensures⟩
    rcases Pass.ends_bind.mp rest with ⟨_, middle, ensured, last⟩ | ⟨error, failed, rfl⟩
    · obtain ⟨_, ensures⟩ | ⟨_, impossible, _⟩ := ensureTaskRun_only ensured
      · obtain ⟨now, rfl, rfl⟩ := (ends_stamped .atStart).mp last
        exact .inl ⟨_, rfl, .started (prepares ensures) now⟩
      · cases impossible
    · obtain ⟨impossible, _⟩ | ⟨_, same, caused, effect⟩ := ensureTaskRun_only failed
      · cases impossible
      · cases same
        rcases effect with rfl | ensures
        · exact .inr ⟨_, rfl, .interrupted caused⟩
        · exact .inr ⟨_, rfl, .aborted notDone caused (prepares ensures)⟩
  · exact .inr ⟨_, rfl, .interrupted caused⟩

theorem start_only (notDone : run.status.isDone = false)
    (unstarted : run.status.taskRunName = none)
    (ended : (run.start settings).Ends (Cluster.Meets hazards) c r after) :
    (∃ next, r = .ok next ∧ c.Decides settings run next after) ∨
      ∃ error, r = .error error ∧ c.Advances hazards settings run (.error error) after := by
  have resolved : run.resolve.Reads c (c.gate run).resolution := reads_resolve
  cases judged : c.gate run with
  | admits value =>
    rw [judged] at resolved
    obtain rest | ⟨error, rfl, caused, rfl⟩ := resolved.bind_only ended
    · exact launch_only notDone unstarted judged rest
    · exact .inr ⟨_, rfl, .interrupted caused⟩
  | fails failure =>
    rw [judged] at resolved
    obtain rest | ⟨error, rfl, caused, rfl⟩ := resolved.bind_only ended
    · obtain ⟨now, rfl, rfl⟩ := (ends_stamped .atEnd).mp rest
      exact .inl ⟨_, rfl, .failed unstarted judged now⟩
    · exact .inr ⟨_, rfl, .interrupted caused⟩
  | waits name =>
    rw [judged] at resolved
    obtain ⟨rfl, rfl | ⟨error, rfl, caused⟩⟩ := resolved.bind_error.only ended
    · exact .inr ⟨_, rfl, .deferred notDone unstarted judged⟩
    · exact .inr ⟨_, rfl, .interrupted caused⟩

theorem follow_only (recorded : run.status.taskRunName = some name)
    (ended : (run.follow name).Ends (Cluster.Meets hazards) c r after) :
    (∃ next, r = .ok next ∧ c.Decides settings run next after) ∨
      ∃ error, r = .error error ∧ c.Advances hazards settings run (.error error) after := by
  obtain rest | ⟨error, rfl, caused, rfl⟩ := (Pass.reads_send rfl).bind_only ended
  · cases present : c.taskRuns.get? ⟨run.metadata.namespaceName, name⟩ with
    | none =>
      rw [present] at rest
      obtain ⟨now, rfl, rfl⟩ := (ends_stamped .atEnd).mp rest
      exact .inl ⟨_, rfl, .lost recorded present now⟩
    | some taskRun =>
      rw [present] at rest
      obtain ⟨now, rfl, rfl⟩ := (ends_stamped .atEnd).mp rest
      exact .inl ⟨_, rfl, .observed recorded present now⟩
  · exact .inr ⟨_, rfl, .interrupted caused⟩

theorem next_only (notDone : run.status.isDone = false)
    (ended : (run.next settings).Ends (Cluster.Meets hazards) c r after) :
    (∃ next, r = .ok next ∧ c.Decides settings run next after) ∨
      ∃ error, r = .error error ∧ c.Advances hazards settings run (.error error) after := by
  unfold next at ended
  cases recorded : run.status.taskRunName with
  | none =>
    rw [recorded] at ended
    exact start_only notDone recorded ended
  | some name =>
    rw [recorded] at ended
    exact follow_only recorded ended

theorem updateRunStatus_only {next : BuildRun} {r : Except PassError Unit}
    (stored : c.runs.get? run.metadata.key = some run) (notDone : run.status.isDone = false)
    (decides : c.Decides settings run next prepared)
    (ended : (Pass.send (.updateRunStatus next)).Ends (Cluster.Meets hazards) prepared r after) :
    c.Advances hazards settings run r after := by
  have answered : prepared.answer (.updateRunStatus next) = _ :=
    Cluster.answer_updateRunStatus (decides.runs.symm ▸ stored) decides.eq
  rcases Pass.ends_request.mp ended with ⟨_, answer, rfl⟩ | ⟨fails, effect, error, rfl⟩
  · rw [answered] at answer
    cases answer
    exact .written notDone decides
  · rw [answered] at effect
    rcases effect with rfl | ⟨loses, rfl⟩
    · cases decides with
      | started prepares now => exact .aborted notDone fails prepares
      | failed | lost | observed => exact .interrupted fails
    · exact .lost notDone fails loses decides

theorem reads_getRun (stored : c.runs.get? run.metadata.key = some run) :
    (Pass.send (.getRun run.metadata.namespaceName run.metadata.name)).Reads c
      (.ok (some run)) := by
  apply Pass.reads_send
  rw [← stored]
  rfl

/-- A pass over a stored run ends in no other way. -/
theorem advance_only (stored : c.runs.get? run.metadata.key = some run)
    (ended : (advance settings run.metadata.namespaceName run.metadata.name).Ends
      (Cluster.Meets hazards) c r after) : c.Advances hazards settings run r after := by
  rw [advance_eq] at ended
  obtain rest | ⟨error, rfl, caused, rfl⟩ := (reads_getRun stored).bind_only ended
  · dsimp only at rest
    cases done : run.status.isDone with
    | true =>
      rw [if_pos done] at rest
      obtain ⟨rfl, rfl⟩ := Pass.ends_pure.mp rest
      exact .finished done
    | false =>
      rw [if_neg (by simp [done])] at rest
      rcases Pass.ends_bind.mp rest with ⟨next, prepared, decided, sent⟩ | ⟨error, failed, rfl⟩
      · obtain ⟨_, same, decides⟩ | ⟨_, impossible, _⟩ := next_only done decided
        · cases same
          exact updateRunStatus_only stored done decides sent
        · cases impossible
      · obtain ⟨_, impossible, _⟩ | ⟨_, same, advances⟩ := next_only done failed
        · cases impossible
        · cases same
          exact advances
  · exact .interrupted caused

/-- A pass over a run that is gone leaves everything alone. -/
theorem advance_missing (missing : c.runs.get? key = none)
    (ended : (advance settings key.ns key.name).Ends (Cluster.Meets hazards) c r after) :
    after = c := by
  rw [advance_eq] at ended
  have absent : (Pass.send (.getRun key.ns key.name)).Reads c (.ok none) := by
    apply Pass.reads_send
    rw [← missing]
    rfl
  obtain rest | ⟨_, _, _, same⟩ := absent.bind_only ended
  · exact (Pass.ends_pure.mp rest).2
  · exact same

theorem ends_advance (stored : c.runs.get? run.metadata.key = some run)
    (rest : (if run.status.isDone then pure () else do
      Pass.send (.updateRunStatus (← run.next settings)) : Pass Unit).Ends (Cluster.Meets hazards) c
        r after) :
    (advance settings run.metadata.namespaceName run.metadata.name).Ends (Cluster.Meets hazards) c r
      after := by
  rw [advance_eq]
  exact (reads_getRun stored).ends_bind rest

theorem ends_advance_unwritten {next : BuildRun}
    (stored : c.runs.get? run.metadata.key = some run) (notDone : run.status.isDone = false)
    (decides : c.Decides settings run next prepared) (fails : hazards.failures)
    (error : RequestError) :
    (advance settings run.metadata.namespaceName run.metadata.name).Ends (Cluster.Meets hazards) c
      (.error (.request error)) prepared := by
  refine ends_advance stored ?_
  rw [if_neg (by simp [notDone])]
  refine Pass.ends_bind.mpr (.inl ⟨_, _, ends_next decides, ?_⟩)
  exact Pass.ends_request.mpr (.inr ⟨fails, .inl rfl, error, rfl⟩)

theorem ends_advance_written {next : BuildRun}
    (stored : c.runs.get? run.metadata.key = some run) (notDone : run.status.isDone = false)
    (decides : c.Decides settings run next prepared) :
    (advance settings run.metadata.namespaceName run.metadata.name).Ends (Cluster.Meets hazards) c
      (.ok ()) (prepared.withRun next) := by
  refine ends_advance stored ?_
  rw [if_neg (by simp [notDone])]
  refine Pass.ends_bind.mpr (.inl ⟨_, _, ends_next decides, ?_⟩)
  exact Pass.ends_request.mpr (.inl ⟨(),
    Cluster.answer_updateRunStatus (decides.runs.symm ▸ stored) decides.eq, rfl⟩)

/-- A pass over a run that was not started and that the gate admits can create its task run. -/
theorem ends_advance_created {build : Build} {strategy : BuildStrategy}
    (stored : c.runs.get? run.metadata.key = some run) (notDone : run.status.isDone = false)
    (unstarted : run.status.taskRunName = none) (admits : c.gate run = .admits (build, strategy))
    (names : run.Names looked)
    (absent : c.taskRuns.get? ⟨run.metadata.namespaceName, looked⟩ = none)
    (fresh : run.Names name)
    (free : c.taskRuns.get? ⟨run.metadata.namespaceName, name⟩ = none) :
    (advance settings run.metadata.namespaceName run.metadata.name).Ends (Cluster.Meets hazards) c
      (.ok ()) ((c.withTaskRun (TaskRun.plan settings name build run strategy.spec)).withRun
        (run.started default looked)) := by
  have prepares : c.Prepares settings run looked _ :=
    ⟨unstarted, build, strategy, admits, names, .created absent fresh free⟩
  exact ends_advance_written stored notDone (.started prepares default)

/-- Without hazards, the pass can end in every way that is left. -/
theorem advance_calm_iff (stored : c.runs.get? run.metadata.key = some run) :
    (advance settings run.metadata.namespaceName run.metadata.name).Ends (Cluster.Meets .calm) c r
      after ↔ c.Advances .calm settings run r after := by
  refine ⟨advance_only stored, fun advances => ?_⟩
  obtain ⟨done, rfl, rfl⟩ | ⟨notDone, next, prepared, decides, rfl, rfl⟩ |
    ⟨notDone, unstarted, name, waits, rfl, rfl⟩ := advances.of_calm
  · refine ends_advance stored ?_
    rw [if_pos done]
    exact Pass.ends_pure.mpr ⟨rfl, rfl⟩
  · exact ends_advance_written stored notDone decides
  · refine ends_advance stored ?_
    rw [if_neg (by simp [notDone])]
    have resolved : run.resolve.Reads after (after.gate run).resolution := reads_resolve
    rw [waits] at resolved
    refine Pass.ends_bind.mpr (.inr ⟨_, ?_, rfl⟩)
    simp only [BuildRun.next, unstarted, start]
    exact resolved.bind_error.ends .calm

end BuildRun

namespace Cluster

theorem exists_names (run : BuildRun) : ∃ name, run.Names name := by
  unfold BuildRun.Names
  cases TaskRunPlan.nameSuffix? run.metadata.uid with
  | some suffix => exact ⟨_, rfl⟩
  | none => exact ⟨_, "", rfl⟩

theorem exists_ensures (settings : Settings) (c : Cluster) (build : Build)
    (strategy : BuildStrategy) (names : run.Names name) :
    ∃ prepared, c.Ensures settings run name build strategy prepared := by
  cases present : c.taskRuns.get? ⟨run.metadata.namespaceName, name⟩ with
  | some taskRun => exact ⟨c, .found present⟩
  | none => exact ⟨_, .created present names present⟩

theorem exists_decides (settings : Settings) (c : Cluster) (now : Readings)
    (ready : ∀ name, run.status.taskRunName = none → c.gate run ≠ .waits name) :
    ∃ next prepared, c.Decides settings run next prepared := by
  cases recorded : run.status.taskRunName with
  | some name =>
    cases found : c.taskRuns.get? ⟨run.metadata.namespaceName, name⟩ with
    | some taskRun => exact ⟨_, _, .observed recorded found now⟩
    | none => exact ⟨_, _, .lost recorded found now⟩
  | none =>
    cases judged : c.gate run with
    | admits value =>
      obtain ⟨name, names⟩ := exists_names run
      obtain ⟨prepared, ensures⟩ := exists_ensures settings c value.1 value.2 names
      exact ⟨_, _, .started ⟨recorded, _, _, judged, names, ensures⟩ now⟩
    | waits name => exact (ready name recorded judged).elim
    | fails failure => exact ⟨_, _, .failed recorded judged now⟩

theorem exists_advances (settings : Settings) (c : Cluster) (run : BuildRun) :
    ∃ r after, c.Advances .calm settings run r after := by
  cases done : run.status.isDone with
  | true => exact ⟨_, _, .finished done⟩
  | false =>
    by_cases waits : ∃ name, run.status.taskRunName = none ∧ c.gate run = .waits name
    · obtain ⟨name, unstarted, waits⟩ := waits
      exact ⟨_, _, .deferred done unstarted waits⟩
    · obtain ⟨next, prepared, decides⟩ := exists_decides settings c default
        fun name unstarted judged => waits ⟨name, unstarted, judged⟩
      exact ⟨_, _, .written done decides⟩

end Cluster

end BuildController
