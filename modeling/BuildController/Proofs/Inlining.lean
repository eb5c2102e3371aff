import BuildController.Proofs.Admission
import BuildController.Proofs.Demands
import BuildController.Proofs.Leftovers
import BuildController.Proofs.Recovery

/-! Runs that spell out their build. What is demanded of a build when it is registered is demanded
of it when a run spells it out, so it makes no difference to a run whether it names a registered
build or repeats its specification. -/
namespace BuildController

/-- The run was not started, and it did not fail before that. -/
def BuildRun.Unstarted (run : BuildRun) : Prop :=
  run.status.isDone = false ∧ run.status.taskRunName = none

namespace Cluster

/-- Without hazards, the only thing that a pass over the run does is to start it with the new task
run. -/
structure Starts (settings : Settings) (c : Cluster) (run : BuildRun) (taskRun : TaskRun) :
    Prop where
  ends : ∃ r d, (BuildRun.advance settings run.metadata.namespaceName run.metadata.name).Ends
    (Meets .calm) c r d
  only : ∀ r d, (BuildRun.advance settings run.metadata.namespaceName run.metadata.name).Ends
    (Meets .calm) c r d → r = .ok () ∧ d.taskRuns = c.taskRuns.insert taskRun.metadata.key taskRun ∧
      ∃ next, d.runs.get? run.metadata.key = some next ∧
        next.status.Says .unknown RunReason.pending.text "" ∧
        next.status.taskRunName = some taskRun.metadata.name

variable {c d : Cluster} {build : Build} {run : BuildRun} {strategy : BuildStrategy}

theorem starts_of_admits (settings : Settings) (stored : c.runs.get? run.metadata.key = some run)
    (unstarted : run.Unstarted) (derives : run.Derives)
    (admits : c.gate run = .admits (build, strategy)) (names : run.Names name)
    (absent : c.taskRuns.get? ⟨run.metadata.namespaceName, name⟩ = none) :
    c.Starts settings run (TaskRun.plan settings name build run strategy.spec) where
  ends := by
    obtain ⟨r, d, advances⟩ := exists_advances settings c run
    exact ⟨r, d, (BuildRun.advance_calm_iff stored).mpr advances⟩
  only r d ended := by
    have settles := (BuildRun.advance_settles stored unstarted.1 unstarted.2).mp ended
    rw [admits] at settles
    cases settles with
    | starts own ensures now =>
      cases names.unique derives own
      cases ensures with
      | found present =>
        rw [absent] at present
        cases present
      | created _ fresh =>
        cases names.unique derives fresh
        exact ⟨rfl, rfl, _, OrderedMap.get?_insert_self _ _ _, run.started_says now _, rfl⟩

theorem Shares.withRun (shares : c.Shares d) (run : BuildRun) : c.Shares (d.withRun run) := by
  unfold Shares at *
  rw [Cluster.withRun, shares]

theorem Shares.strategyOf (shares : c.Shares d) (ns : String) (ref : StrategyRef) :
    d.strategyOf ns ref = c.strategyOf ns ref := by
  rw [shares]
  rfl

/-- A run with nothing of its own is admitted if its build can be used and has its strategy. -/
theorem admits_of_offers (shares : c.Shares d) (plain : run.spec.conflict? = none)
    (offered : d.Offers run build) (env : run.spec.env = []) (values : run.spec.paramValues = [])
    (found : c.strategyOf run.metadata.namespaceName build.spec.strategy = .ok strategy)
    (params : paramsViolation? build.spec.paramValues strategy.spec = none) :
    d.gate run = .admits (build, strategy) := by
  refine judges_iff.mp (.admitted plain offered ?_ ((shares.strategyOf _ _).trans found) ?_)
  · rw [env]
    rfl
  · rw [values]
    exact params

theorem strategyVerdict_eq_none (fine : c.strategyVerdict build = none) :
    ∃ strategy, c.strategyOf build.metadata.namespaceName build.spec.strategy = .ok strategy ∧
      paramsViolation? build.spec.paramValues strategy.spec = none := by
  unfold strategyVerdict at fine
  cases found : c.strategyOf build.metadata.namespaceName build.spec.strategy with
  | error violation => simp [found] at fine
  | ok strategy => exact ⟨strategy, rfl, by simpa [found] using fine⟩

/-- No concern objects to a specification that was registered, wherever in the namespace it is
spelled out. A build that is spelled out has no annotations, so its repository is not probed. -/
theorem verdict_inlineBuild (beside : run.metadata.namespaceName = build.metadata.namespaceName)
    (accepted : c.violation? build = none) :
    ∀ concern ∈ Concern.ofInlineBuild, c.verdict (run.inlineBuild build.spec) concern = none := by
  intro concern member
  have stored : concern ∈ Concern.ofBuild := by
    cases concern <;> revert member <;> decide
  have fine := List.findSome?_eq_none_iff.mp accepted concern stored
  cases concern with
  | sourceUrl => rfl
  | secrets =>
    refine Eq.trans ?_ fine
    simp only [verdict, secretsVerdict, ← beside]
    rfl
  | strategy =>
    refine Eq.trans ?_ fine
    simp only [verdict, strategyVerdict, ← beside]
    rfl
  | ownerReferences | buildName | triggers => exact absurd member (by decide)
  | _ => exact fine

theorem offers_inlineBuild (shares : c.Shares d)
    (beside : run.metadata.namespaceName = build.metadata.namespaceName)
    (accepted : c.violation? build = none) (spells : run.spec.build = ⟨none, some build.spec⟩) :
    d.Offers run (run.inlineBuild build.spec) := by
  refine .inline spells fun concern member => ?_
  have reader : concern ≠ .ownerReferences := by
    rintro rfl
    exact absurd member (by decide)
  rw [shares.verdict reader]
  exact verdict_inlineBuild beside accepted concern member

end Cluster

/-- The task run with the name of a build among its labels. -/
def TaskRun.labelled (t : TaskRun) (build : String) : TaskRun :=
  { t with metadata := { t.metadata with labels := t.metadata.labels.insert buildLabel build } }

variable {c d : Cluster} {build accepted : Build} {named spelled : BuildRun}

/-- A build that is registered after it was checked has no violation, and the check has left alone
whatever the concerns depend on. -/
theorem Build.register_accepts (filed : c.Filed) (stored : c.builds.get? key = some build)
    (ended : (register key.ns key.name).Ends (Cluster.Meets .calm) c r d)
    (checked : d.builds.get? key = some accepted)
    (registered : accepted.status.registered = some .true) :
    c.Shares d ∧ c.violation? build = none ∧ ∃ status, accepted = { build with status } := by
  cases filed.builds key build stored
  obtain ⟨-, rfl⟩ := (register_only filed stored ended).of_calm
  cases (OrderedMap.get?_insert_self _ _ _).symm.trans checked
  refine ⟨?_, ?_, _, rfl⟩
  · rw [Cluster.Shares, Cluster.withBuild, Cluster.withRuns_same]
  · cases found : c.violation? build with
    | none => rfl
    | some violation => simp [found, BuildStatus.ofViolation, BuildStatus.rejected] at registered

/-- Of the build only the specification and the name go into a task run, and the name goes into a
label. -/
theorem TaskRunPlan.plan_named (settings : Settings) (name : String) (strategy : StrategySpec)
    (nameable : build.metadata.name ≠ "")
    (refers : named.spec = { build := ref, serviceAccount })
    (spells : spelled.spec = { build := other, serviceAccount })
    (alike : spelled.metadata = named.metadata) :
    let t := TaskRun.plan settings name (spelled.inlineBuild build.spec) spelled strategy
    t.metadata.labels.get? buildLabel = none ∧
      TaskRun.plan settings name build named strategy = t.labelled build.metadata.name := by
  obtain ⟨metadata, spec, status⟩ := named
  obtain ⟨metadata', spec', status'⟩ := spelled
  cases refers
  cases spells
  cases alike
  have apart : buildLabel ≠ runLabel := by decide
  constructor
  · exact OrderedMap.get?_insert_of_ne _ _ apart
  · simp only [TaskRun.plan, labels, if_neg nameable]
    rfl

namespace BuildRun

open Cluster

/-- A run that spells out the specification of a registered build starts like one that names the
build, and but for the label with the name of the build they get the same task run. -/
theorem inlining_equivalent (settings : Settings) (filed : c.Filed)
    (stored : c.builds.get? key = some build) (untriggered : build.spec.trigger = none)
    (ended : (Build.register key.ns key.name).Ends (Meets .calm) c r d)
    (checked : d.builds.get? key = some accepted)
    (registered : accepted.status.registered = some .true)
    (refers : named.spec = { build := { name := some key.name }, serviceAccount })
    (spells : spelled.spec = { build := { spec := some build.spec }, serviceAccount })
    (alike : spelled.metadata = named.metadata) (beside : named.metadata.namespaceName = key.ns)
    (derives : named.Derives)
    (fresh : named.Unstarted) (fresh' : spelled.Unstarted)
    (absent : ∀ name, named.Names name → d.taskRuns.get? ⟨key.ns, name⟩ = none) :
    ∃ t, (d.withRun spelled).Starts settings spelled t ∧
      t.metadata.labels.get? buildLabel = none ∧
      (d.withRun named).Starts settings named (t.labelled key.name) := by
  obtain ⟨shares, accepts, status, rfl⟩ := Build.register_accepts filed stored ended checked
    registered
  cases filed.builds key build stored
  have fine := List.findSome?_eq_none_iff.mp accepts
  obtain ⟨nameable, -⟩ := Build.nameViolation?_eq_none.mp (fine .buildName (by decide))
  obtain ⟨strategy, found, params⟩ := strategyVerdict_eq_none (fine .strategy (by decide))
  have beside' : spelled.metadata.namespaceName = build.metadata.namespaceName :=
    (congrArg Metadata.namespaceName alike).trans beside
  obtain ⟨name, names⟩ := exists_names named
  have names' : spelled.Names name := by
    unfold Names TaskRunPlan.nameWith
    rw [alike]
    exact names
  have derives' : spelled.Derives := by
    rwa [Derives, alike]
  have offered : (d.withRun named).Offers named { build with status } := by
    refine .registered (congrArg RunSpec.build refers) ?_ registered
    rw [beside]
    exact checked
  -- The check has adjusted owners at most, and no concern of a build that is spelled out sees them.
  have offered' : (d.withRun spelled).Offers spelled (spelled.inlineBuild build.spec) :=
    offers_inlineBuild (shares.withRun spelled) beside' accepts (congrArg RunSpec.build spells)
  have admits : (d.withRun named).gate named = .admits ({ build with status }, strategy) := by
    refine admits_of_offers (shares.withRun named) ?_ offered (congrArg RunSpec.env refers)
      (congrArg RunSpec.paramValues refers) ?_ params
    · rw [RunSpec.conflict?, refers]
    · rw [beside]
      exact found
  have admits' : (d.withRun spelled).gate spelled =
      .admits (spelled.inlineBuild build.spec, strategy) := by
    refine admits_of_offers (shares.withRun spelled) ?_ offered' (congrArg RunSpec.env spells)
      (congrArg RunSpec.paramValues spells) ?_ params
    · simp [RunSpec.conflict?, spells, untriggered]
    · rw [beside']
      exact found
  obtain ⟨bare, same⟩ := TaskRunPlan.plan_named settings name strategy.spec nameable refers spells
    alike
  refine ⟨_, ?_, bare, ?_⟩
  · exact starts_of_admits settings (OrderedMap.get?_insert_self _ _ _) fresh' derives' admits'
      names' (beside' ▸ absent name names)
  · have starts := starts_of_admits settings (OrderedMap.get?_insert_self _ _ _) fresh
      derives admits names (beside ▸ absent name names)
    exact same ▸ starts

/-- A build that fetches its source can be spelled out. -/
theorem inlining_equivalent_git :
    let build : Build :=
      { metadata := { name := "app" }
        spec := { strategy := { name := "kaniko" }, output := { image := "registry/app" }
                  source := some { url := "https://github.com/kiln-build/sample-go" } } }
    let strategy : BuildStrategy := { metadata := { name := "kaniko" }, spec := {} }
    let c := (Cluster.put {} (.build build)).put (.strategy strategy)
    let metadata : Metadata := { name := "run", uid := "0a1b2c" }
    let named : BuildRun := { metadata, spec := { build := { name := "app" } } }
    let spelled : BuildRun := { metadata, spec := { build := { spec := build.spec } } }
    ∃ d t, (Build.register "" "app").Ends (Meets .calm) c (.ok ()) d ∧
      (d.withRun spelled).Starts {} spelled t ∧ t.metadata.labels.get? buildLabel = none ∧
      (d.withRun named).Starts {} named (t.labelled "app") := by
  intro build strategy c metadata named spelled
  have filed : c.Filed := (filed_empty.put (.build build)).put (.strategy strategy)
  have stored : c.builds.get? ⟨"", "app"⟩ = some build := OrderedMap.get?_insert_self _ _ _
  have ended : (Build.register "" "app").Ends (Meets .calm) c (.ok ()) _ :=
    Build.ends_register filed stored
  have accepts : c.violation? build = none := by decide +kernel
  have derives : named.Derives := by decide
  have refers : named.spec = { build := { name := some "app" } } := rfl
  have spells : spelled.spec = { build := { spec := some build.spec } } := rfl
  have alike : spelled.metadata = named.metadata := rfl
  have registered : (BuildStatus.ofViolation (c.violation? build)).registered = some .true := by
    rw [accepts]
    rfl
  obtain ⟨t, started⟩ := inlining_equivalent {} filed stored rfl ended
    (OrderedMap.get?_insert_self _ _ _) registered refers spells alike rfl derives ⟨rfl, rfl⟩
    ⟨rfl, rfl⟩ (fun _ _ => rfl)
  exact ⟨_, t, ended, started⟩

end BuildRun

end BuildController
