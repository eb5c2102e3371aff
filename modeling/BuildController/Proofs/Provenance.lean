import BuildController.Proofs.Round

/-! Where task runs come from. A resync checks all builds before it starts runs, so however stale
the statuses of builds are that it finds, it creates task runs for accepted builds only, and no run
is left waiting for its build. -/
namespace BuildController

/-- A checked build is registered or rejected. -/
theorem BuildStatus.registered_ofViolation (violation? : Option Violation) :
    (ofViolation violation?).registered =
      some (if violation? = none then .true else .false) := by
  cases violation? with
  | none => rfl
  | some violation => rfl

namespace Cluster

/-- The check of the concern finds nothing wrong with the build. -/
def Accepts (c : Cluster) (concern : Concern) (build : Build) : Prop :=
  (concern.violation? build).Ends (Meets .calm) c (.ok none) c

/-- The build of a run is accepted by its checks: a stored one that it names, with whatever status,
or one that it spells out. -/
inductive Vouches (c : Cluster) (run : BuildRun) : Prop
  | named (named : run.spec.build = ⟨some name, none⟩)
      (stored : c.builds.get? ⟨run.metadata.namespaceName, name⟩ = some build)
      (accepted : ∀ concern ∈ Concern.ofBuild, concern ≠ .ownerReferences →
        c.Accepts concern build) : Vouches c run
  | inline (spelled : run.spec.build = ⟨none, some spec⟩)
      (accepted : ∀ concern ∈ Concern.ofInlineBuild, c.Accepts concern (run.inlineBuild spec)) :
      Vouches c run

/-- The task run says that it belongs to the run. -/
structure Owns (run : BuildRun) (taskRun : TaskRun) : Prop where
  ns : taskRun.metadata.namespaceName = run.metadata.namespaceName
  owner : taskRun.metadata.ownerReferences = [TaskRunPlan.ownerReference run]
  label : taskRun.metadata.labels.get? runLabel = some run.metadata.name

variable {settings : Settings} {c d middle : Cluster} {run : BuildRun} {key : ObjectKey}

theorem accepts_iff {concern : Concern} (reader : concern ≠ .ownerReferences) {build : Build} :
    c.Accepts concern build ↔ c.verdict build concern = none := by
  rw [Accepts, (Concern.reads_violation? reader).calm_iff]
  simp [eq_comm]

theorem Shares.accepts_iff (shares : c.Shares d) {concern : Concern}
    (reader : concern ≠ .ownerReferences) {build : Build} :
    d.Accepts concern build ↔ c.Accepts concern build := by
  rw [Cluster.accepts_iff reader, Cluster.accepts_iff reader, shares.verdict reader]

/-- A registered build meets all concerns, once it has settled. -/
theorem Settled.verdict_eq (settled : c.Settled settings) (ns : key.ns = settings.ns)
    (stored : c.builds.get? key = some build) (registered : build.status.registered = some .true)
    {concern : Concern} (member : concern ∈ Concern.ofBuild) : c.verdict build concern = none := by
  obtain ⟨status, -⟩ := settled key build ns stored
  have clean : c.violation? build = none := by
    simpa [status, BuildStatus.registered_ofViolation] using registered
  exact List.findSome?_eq_none_iff.mp clean concern member

theorem ne_ownerReferences {concern : Concern} (member : concern ∈ Concern.ofInlineBuild) :
    concern ≠ .ownerReferences := by
  rintro rfl
  revert member
  decide

/-- Once builds have settled, the gate admits only runs whose builds are accepted. -/
theorem Settled.vouches (settled : c.Settled settings)
    (ns : run.metadata.namespaceName = settings.ns)
    (admits : c.gate run = .admits (build, strategy)) : c.Vouches run := by
  cases judges_iff.mpr admits with
  | admitted _ offered =>
    cases offered with
    | registered named stored registered =>
      refine .named named stored fun concern member reader => ?_
      exact (accepts_iff reader).mpr (settled.verdict_eq ns stored registered member)
    | inline spelled accepted =>
      refine .inline spelled fun concern member => ?_
      exact (accepts_iff (ne_ownerReferences member)).mpr (accepted concern member)

/-- Once builds have settled, the gate makes no run wait. -/
theorem Settled.not_waits (settled : c.Settled settings)
    (ns : run.metadata.namespaceName = settings.ns) : c.gate run ≠ .waits name := by
  intro waits
  cases judges_iff.mpr waits with
  | unchecked _ named stored unchecked =>
    obtain ⟨status, -⟩ := settled _ _ ns stored
    rw [status, BuildStatus.registered_ofViolation] at unchecked
    split at unchecked <;> simp at unchecked

/-- What is vouched for after builds were checked was vouched for before. -/
theorem Reviews.vouches (reviews : c.Reviews settings middle)
    (vouched : middle.Vouches (run.withOwners references)) : c.Vouches run := by
  cases vouched with
  | named named stored accepted =>
    obtain ⟨build, present, checked⟩ := reviews.build_of stored
    refine .named named present fun concern member reader => ?_
    have accepts := (accepts_iff reader).mp (accepted concern member reader)
    rw [checked, reviews.shares.verdict reader] at accepts
    refine (accepts_iff reader).mpr (Eq.trans ?_ accepts)
    cases concern <;> rfl
  | inline spelled accepted =>
    refine .inline spelled fun concern member => ?_
    exact (reviews.shares.accepts_iff (ne_ownerReferences member)).mp (accepted concern member)

/-- A task run belongs to the run for which it is created. -/
theorem owns_plan (settings : Settings) (name : String) (build : Build) (run : BuildRun)
    (strategy : StrategySpec) : Owns run (TaskRun.plan settings name build run strategy) where
  ns := rfl
  owner := rfl
  label := by
    have apart : runLabel ≠ buildLabel := by decide
    simp only [TaskRun.plan, TaskRunPlan.labels]
    split <;> simp [OrderedMap.get?_insert, apart]

theorem Owns.of_withOwners (owns : Owns (run.withOwners references) taskRun) : Owns run taskRun :=
  ⟨owns.ns, owns.owner, owns.label⟩

theorem Turns.follows (turns : c.Turns settings run d next) :
    next.status.isDone = true ∨ next.status.taskRunName.isSome := by
  cases turns with
  | started => exact .inr rfl
  | failed _ _ now => exact .inl ((run.failed_says now _).isDone_iff.mpr nofun)
  | lost _ _ now => exact .inl ((run.failed_says now _).isDone_iff.mpr nofun)
  | @observed _ taskRun recorded _ now =>
    have same := (Observation.observe_taskRunName now run taskRun).trans recorded
    exact .inr (Option.isSome_iff_exists.mpr ⟨_, same⟩)

/-- After the phase of the runs, every run of the watched namespace is done or has a task run. -/
theorem Proceeds.follows (filed : c.Filed) (settled : c.Settled settings)
    (proceeds : c.Proceeds settings d) (ns : key.ns = settings.ns)
    (stored : d.runs.get? key = some next) :
    next.status.isDone = true ∨ next.status.taskRunName.isSome := by
  obtain ⟨run, present, ⟨done, rfl⟩ | ⟨-, ⟨-, name, waits⟩ | turns⟩⟩ :=
    proceeds.outcome filed ns stored
  · exact .inl done
  · refine (settled.not_waits ?_ waits).elim
    rw [← ns, ← filed.runs key run present]
    rfl
  · exact turns.follows

/-- Once builds were checked, task runs are created for runs with accepted builds only. -/
theorem Reviews.launches (filed : c.Filed) (reviews : c.Reviews settings middle)
    (launches : middle.Launches settings key taskRun) :
    key.ns = settings.ns ∧
      ∃ run, c.runs.get? key = some run ∧ Owns run taskRun ∧ c.Vouches run := by
  cases launches with
  | @intro owned build strategy name watched stored _ _ admits names =>
    obtain ⟨run, present, same⟩ := reviews.run_of stored
    have ns : owned.metadata.namespaceName = settings.ns := by
      rw [same, ← watched, ← filed.runs key run present]
      rfl
    have owns := owns_plan settings name build owned strategy.spec
    have vouched := (reviews.settled filed).vouches ns admits
    refine ⟨watched, run, present, ?_, ?_⟩
    · generalize TaskRun.plan _ _ _ _ _ = taskRun at owns ⊢
      rw [same] at owns
      exact owns.of_withOwners
    · rw [same] at vouched
      exact reviews.vouches vouched

/-- However stale the statuses of builds are, a resync can be completed, and then every task run
that it created belongs to a run whose build is accepted by its checks, and every run of the watched
namespace is done or has a task run. -/
theorem resync_starts_accepted (settings : Settings) (filed : c.Filed)
    (room : 1 ≤ settings.maxParallelReconciles) :
    (∃ d, c.Resyncs settings d) ∧ ∀ d, c.Resyncs settings d →
      (∀ key taskRun, c.taskRuns.get? key = none → d.taskRuns.get? key = some taskRun →
        ∃ owner run, owner.ns = settings.ns ∧ c.runs.get? owner = some run ∧ Owns run taskRun ∧
          c.Vouches run) ∧
      ∀ key run, key.ns = settings.ns → d.runs.get? key = some run →
        run.status.isDone = true ∨ run.status.taskRunName.isSome := by
  refine ⟨filed.exists_resyncs room, fun d resyncs => ?_⟩
  obtain ⟨middle, reviews, filed', proceeds⟩ := filed.resynced resyncs
  constructor
  · intro key taskRun absent stored
    rcases proceeds.created key taskRun stored with old | ⟨-, owner, launches⟩
    · rw [reviews.same, absent] at old
      cases old
    · obtain ⟨ns, run, present, owns, vouched⟩ := reviews.launches filed launches
      exact ⟨owner, run, ns, present, owns, vouched⟩
  · intro key run ns stored
    exact proceeds.follows filed' (reviews.settled filed) ns stored

/-- A build that is registered although its strategy is gone starts nothing. -/
theorem resync_starts_accepted_stale :
    let run : BuildRun :=
      { metadata := { name := "run", ns := some "default" }
        spec := { build := { name := "app" } } }
    let build : Build :=
      { metadata := { name := "app", ns := some "default" }
        spec := { strategy := { name := "kaniko" }, output := { image := "registry/app" } }
        status := { registered := some .true } }
    let c := (Cluster.put {} (.build build)).put (.run run)
    (∃ d, c.Resyncs {} d) ∧ ∀ d, c.Resyncs {} d → ∀ key, d.taskRuns.get? key = none := by
  intro run build c
  have filed : c.Filed := (filed_empty.put _).put _
  have accepted := resync_starts_accepted {} filed (by decide)
  refine ⟨accepted.1, fun d resyncs key => ?_⟩
  refine Option.eq_none_iff_forall_ne_some.mpr fun taskRun created => ?_
  obtain ⟨owner, started, -, stored, -, vouched⟩ :=
    (accepted.2 d resyncs).1 key taskRun rfl created
  have same : started = run := by
    have inserted : c.runs.get? owner = if owner = run.metadata.key then some run else none :=
      OrderedMap.get?_insert _ _ _ _
    rw [stored] at inserted
    split at inserted
    · exact Option.some.inj inserted
    · cases inserted
  subst same
  cases vouched with
  | named named present accepted =>
    cases named
    cases present
    have missing : c.verdict build .strategy = none :=
      (accepts_iff (by decide)).mp (accepted .strategy (by decide) (by decide))
    revert missing
    decide
  | inline spelled => cases spelled

end Cluster

end BuildController
