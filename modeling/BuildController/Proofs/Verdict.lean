import BuildController.Concern.Basic
import BuildController.Proofs.Hazard

/-! What the checks of a build find in a control plane, as functions of the control plane. A check
that only reads ends with what the function says; checks in turn end with the first violation. -/
namespace BuildController

namespace Cluster

/-- The strategy that a reference means, in the given namespace unless it belongs to the cluster. -/
def strategyOf (c : Cluster) (ns : String) (ref : StrategyRef) : Except Violation BuildStrategy :=
  match ref.resolvedKind with
  | .error kind => .error (.strategyKindUnknown kind)
  | .ok .namespaced =>
    match c.strategies.get? ⟨ns, ref.name⟩ with
    | some strategy => .ok strategy
    | none => .error (.strategyMissing ref.name ns)
  | .ok .cluster =>
    match c.clusterStrategies.get? ref.name with
    | some strategy => .ok strategy
    | none => .error (.clusterStrategyMissing ref.name)

/-- The secret, if one is named and the namespace lacks it. -/
def lackedSecret? (c : Cluster) (ns : String) (secret : Option String) : Option String :=
  secret.filter fun name => !c.secrets.contains ⟨ns, name⟩

/-- What is wrong with the secrets of a build. -/
def secretsVerdict (c : Cluster) (build : Build) : Option Violation :=
  let ns := build.metadata.namespaceName
  match c.lackedSecret? ns (build.spec.source.bind (·.cloneSecret)),
      c.lackedSecret? ns build.spec.output.pushSecret with
  | none, none => none
  | some secret, none => some (.sourceSecretMissing secret)
  | none, some secret => some (.outputSecretMissing secret)
  | some source, some output => some (.bothSecretsMissing source output)

/-- The repository that has to be probed: that of a build that asks for it and needs no secret. -/
def probedSource? (build : Build) : Option GitSource :=
  if build.metadata.annotationEnabled Build.verifyAnnotation then
    build.spec.gitSource?.filter fun source => source.cloneSecret.isNone
  else none

/-- What is wrong with the repository of a build. -/
def repositoryVerdict (c : Cluster) (build : Build) : Option Violation :=
  match probedSource? build with
  | none => none
  | some source =>
    match (Url.ofText? source.url).filter Url.isHttp with
    | none => some .repositoryUrlInvalid
    | some url => if c.reaches url then none else some .repositoryUnreachable

/-- What is wrong with the strategy of a build, or with the values that it is to get. -/
def strategyVerdict (c : Cluster) (build : Build) : Option Violation :=
  match c.strategyOf build.metadata.namespaceName build.spec.strategy with
  | .error violation => some violation
  | .ok strategy => paramsViolation? build.spec.paramValues strategy.spec

/-- The runs of a build, by name. -/
def runsOf (c : Cluster) (build : Build) : List BuildRun :=
  (inNamespace build.metadata.namespaceName c.runs).filter (isRunOf build.metadata.name)

/-- The first run of a build that something else controls although the build is to own it. -/
def ownershipVerdict (c : Cluster) (build : Build) : Option Violation :=
  (build.spec.retention.bind (·.atBuildDeletion)).bind fun retain =>
    (c.runsOf build).findSome? fun run =>
      match adjustment build retain run.metadata.ownerReferences with
      | .blocked controller =>
        some (.controlledElsewhere run.metadata.name controller.kind controller.name)
      | .keep | .replace _ => none

/-- What is wrong with a build in view of one concern. -/
def verdict (c : Cluster) (build : Build) : Concern → Option Violation
  | .secrets => c.secretsVerdict build
  | .strategy => c.strategyVerdict build
  | .sourceUrl => c.repositoryVerdict build
  | .source => build.spec.sourcesViolation?
  | .output => build.spec.outputViolation?
  | .buildName => build.nameViolation?
  | .env => envViolation? build.spec.env
  | .ownerReferences => c.ownershipVerdict build
  | .triggers => build.spec.triggersViolation?
  | .nodeSelector => build.spec.nodeSelectorViolation?
  | .tolerations => build.spec.tolerationsViolation?
  | .schedulerName => build.spec.schedulerNameViolation?

end Cluster

variable {c : Cluster} {build : Build}

theorem StrategyRef.reads_lookup (ref : StrategyRef) :
    (ref.lookup ns).Reads c (.ok (c.strategyOf ns ref)) := by
  unfold StrategyRef.lookup Cluster.strategyOf
  cases ref.resolvedKind with
  | error kind => exact Pass.reads_pure
  | ok kind =>
    cases kind with
    | namespaced =>
      refine Pass.Reads.bind (Pass.reads_send rfl) ?_
      cases c.strategies.get? ⟨ns, ref.name⟩ <;> exact Pass.reads_pure
    | cluster =>
      refine Pass.Reads.bind (Pass.reads_send rfl) ?_
      cases c.clusterStrategies.get? ref.name <;> exact Pass.reads_pure

theorem reads_missingSecret? (secret : Option String) :
    (missingSecret? ns secret).Reads c (.ok (c.lackedSecret? ns secret)) := by
  cases secret with
  | none => exact Pass.reads_pure
  | some name =>
    refine Pass.Reads.bind (Pass.reads_send rfl) ?_
    simp only [Cluster.lackedSecret?, Option.filter_some]
    cases c.secrets.contains ⟨ns, name⟩ <;> exact Pass.reads_pure

theorem reads_secretsViolation? :
    (secretsViolation? build).Reads c (.ok (c.secretsVerdict build)) :=
  Pass.Reads.bind (reads_missingSecret? _) <|
    Pass.Reads.bind (reads_missingSecret? _) Pass.reads_pure

theorem reads_repositoryViolation? :
    (repositoryViolation? build).Reads c (.ok (c.repositoryVerdict build)) := by
  unfold repositoryViolation? Cluster.repositoryVerdict Cluster.probedSource?
  cases build.metadata.annotationEnabled Build.verifyAnnotation with
  | false => exact Pass.reads_pure
  | true =>
    cases build.spec.gitSource? with
    | none => exact Pass.reads_pure
    | some source =>
      cases secret : source.cloneSecret with
      | some _ =>
        simpa [Option.filter_some, secret] using Pass.reads_pure
      | none =>
        simp only [Option.filter_some, secret, Option.isSome_none, Option.isNone_none,
          Bool.not_true, Bool.false_eq_true, if_false, if_true]
        cases (Url.ofText? source.url).filter Url.isHttp with
        | none => exact Pass.reads_pure
        | some url => exact Pass.Reads.bind Pass.reads_probe Pass.reads_pure

theorem reads_strategyViolation? :
    (strategyViolation? build).Reads c (.ok (c.strategyVerdict build)) := by
  refine Pass.Reads.bind (StrategyRef.reads_lookup _) ?_
  unfold Cluster.strategyVerdict
  cases c.strategyOf build.metadata.namespaceName build.spec.strategy <;> exact Pass.reads_pure

namespace Concern

/-- All concerns but that of ownership are checked without a write. -/
theorem reads_violation? {concern : Concern} (reader : concern ≠ .ownerReferences) :
    (concern.violation? build).Reads c (.ok (c.verdict build concern)) := by
  cases concern with
  | secrets => exact reads_secretsViolation?
  | strategy => exact reads_strategyViolation?
  | sourceUrl => exact reads_repositoryViolation?
  | ownerReferences => exact (reader rfl).elim
  | _ => exact Pass.reads_pure

/-- Concerns that are checked in turn answer with the first violation. -/
theorem reads_firstViolation? {concerns : List Concern} (readers : .ownerReferences ∉ concerns) :
    (firstViolation? build concerns).Reads c (.ok (concerns.findSome? (c.verdict build))) := by
  induction concerns with
  | nil => exact Pass.reads_pure
  | cons concern rest ih =>
    obtain ⟨first, later⟩ := List.ne_and_not_mem_of_not_mem_cons readers
    refine Pass.Reads.bind Pass.reads_checkpoint ?_
    refine Pass.Reads.bind (reads_violation? first.symm) ?_
    rw [List.findSome?_cons]
    cases c.verdict build concern with
    | some violation => exact Pass.reads_pure
    | none => exact ih later

end Concern

end BuildController
