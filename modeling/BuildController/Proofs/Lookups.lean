import BuildController.Pass.Register
import BuildController.Pass.Start
import BuildController.Proofs.Verdict

/-! Lookups. Most of what a pass does is to look things up that no pass ever changes: strategies,
secrets and repositories. All concerns but that of ownership are checked so, and the gate before a
run asks for builds besides. -/
namespace BuildController

/-- The effect looks up what no pass changes. -/
def Effect.Looks : Effect → Prop
  | .send (.getStrategy ..) | .send (.getClusterStrategy _) | .send (.secretExists ..) => True
  | .probe _ | .isCancelled => True
  | _ => False

/-- The effect looks up a build, or what no pass changes. -/
def Effect.Inquires (effect : Effect) : Prop :=
  effect.Looks ∨ ∃ ns name, effect = .send (.getBuild ns name)

/-- The effect looks up what no pass changes, and in no namespace but the given one. -/
def Effect.LooksIn (ns : String) : Effect → Prop
  | .send (.getStrategy place _) | .send (.secretExists place _) => place = ns
  | .send (.getClusterStrategy _) => True
  | .probe _ | .isCancelled => True
  | _ => False

/-- The effect looks up a build, or what no pass changes, in no namespace but the given one. -/
def Effect.InquiresIn (ns : String) (effect : Effect) : Prop :=
  effect.LooksIn ns ∨ ∃ name, effect = .send (.getBuild ns name)

theorem Effect.LooksIn.looks {effect : Effect} (looks : effect.LooksIn ns) : effect.Looks := by
  cases effect with
  | send request => cases request <;> first | exact looks.elim | trivial
  | probe | isCancelled => trivial
  | clock | randomSuffix => cases looks

theorem Effect.InquiresIn.inquires {effect : Effect} (inquires : effect.InquiresIn ns) :
    effect.Inquires := by
  rcases inquires with looks | ⟨name, rfl⟩
  · exact .inl looks.looks
  · exact .inr ⟨ns, name, rfl⟩

variable {c d u v : Cluster}

/-- A lookup changes nothing, and it is always answered. -/
theorem Effect.Looks.reads {effect : Effect} (looks : effect.Looks) :
    (∃ answer, Cluster.Meets .calm c effect answer c) ∧
      ∀ answer d, Cluster.Meets .calm c effect answer d → d = c := by
  cases effect with
  | send request =>
    cases request with
    | getStrategy | getClusterStrategy | secretExists =>
      refine ⟨⟨_, Cluster.meets_calm_send.mpr ⟨_, rfl, rfl⟩⟩, fun answer d met => ?_⟩
      obtain ⟨value, answered, -⟩ := Cluster.meets_calm_send.mp met
      exact (congrArg Prod.snd answered).symm
    | _ => cases looks
  | probe url => exact ⟨⟨c.reaches url, rfl, rfl⟩, fun _ _ met => met.2⟩
  | isCancelled => exact ⟨⟨false, nofun, rfl⟩, fun _ _ met => met.2⟩
  | clock | randomSuffix => cases looks

namespace Cluster

/-- The control planes have the same strategies, secrets and repositories. -/
def Shares (c d : Cluster) : Prop :=
  d = { c with builds := d.builds, runs := d.runs, taskRuns := d.taskRuns }

theorem Shares.between (first : c.Shares u) (second : c.Shares v) : u.Shares v := by
  unfold Shares at *
  rw [second, first]

/-- All concerns but that of ownership depend on nothing else. -/
theorem Shares.verdict (shares : c.Shares d) {concern : Concern}
    (reader : concern ≠ .ownerReferences) (build : Build) :
    d.verdict build concern = c.verdict build concern := by
  rw [shares]
  cases concern with
  | ownerReferences => exact (reader rfl).elim
  | _ => rfl

theorem Shares.findSome? (shares : c.Shares d) {concerns : List Concern}
    (readers : .ownerReferences ∉ concerns) (build : Build) :
    concerns.findSome? (d.verdict build) = concerns.findSome? (c.verdict build) := by
  induction concerns with
  | nil => rfl
  | cons concern rest ih =>
    obtain ⟨first, later⟩ := List.ne_and_not_mem_of_not_mem_cons readers
    rw [List.findSome?_cons, List.findSome?_cons, shares.verdict first.symm, ih later]

end Cluster

/-- Such control planes give a lookup the same answers. -/
theorem Effect.Looks.same {effect : Effect} {answer : effect.Answer} (looks : effect.Looks)
    (same : c.Shares d) (met : Cluster.Meets .calm d effect answer d) :
    Cluster.Meets .calm c effect answer c := by
  cases effect with
  | send request =>
    obtain ⟨value, answered, rfl⟩ := Cluster.meets_calm_send.mp met
    refine Cluster.meets_calm_send.mpr ⟨value, ?_, rfl⟩
    rw [same] at answered
    cases request with
    | getStrategy | getClusterStrategy | secretExists =>
      have found := congrArg Prod.fst answered
      exact Prod.ext found rfl
    | _ => cases looks
  | probe url =>
    refine ⟨?_, rfl⟩
    rw [met.1, same]
    rfl
  | isCancelled => exact ⟨met.1, rfl⟩
  | clock | randomSuffix => cases looks

open Pass

theorem StrategyRef.only_lookup (ns : String) (ref : StrategyRef) :
    (ref.lookup ns).Only (Effect.LooksIn ns) := by
  unfold StrategyRef.lookup
  cases ref.resolvedKind with
  | error kind => exact only_pure
  | ok kind =>
    cases kind with
    | namespaced =>
      refine Only.bind (only_send (by rfl)) fun found => ?_
      cases found <;> exact only_pure
    | cluster =>
      refine Only.bind (only_send trivial) fun found => ?_
      cases found <;> exact only_pure

theorem only_missingSecret? (ns : String) (secret : Option String) :
    (missingSecret? ns secret).Only (Effect.LooksIn ns) := by
  cases secret with
  | none => exact only_pure
  | some name => exact Only.bind (only_send (by rfl)) fun _ => only_pure

section Checks

variable (build : Build)

theorem only_secretsViolation? :
    (secretsViolation? build).Only (Effect.LooksIn build.metadata.namespaceName) :=
  Only.bind (only_missingSecret? _ _) fun _ =>
    Only.bind (only_missingSecret? _ _) fun _ => only_pure

theorem only_repositoryViolation? :
    (repositoryViolation? build).Only (Effect.LooksIn build.metadata.namespaceName) := by
  unfold repositoryViolation?
  split
  · exact only_pure
  · split
    · exact only_pure
    · split
      · exact only_pure
      · split
        · exact only_pure
        · exact Only.bind (only_probe trivial) fun _ => only_pure

theorem only_strategyViolation? :
    (strategyViolation? build).Only (Effect.LooksIn build.metadata.namespaceName) := by
  refine Only.bind (StrategyRef.only_lookup _ _) fun found => ?_
  cases found <;> exact only_pure

end Checks

namespace Concern

theorem only_violation? {concern : Concern} (reader : concern ≠ .ownerReferences) (build : Build) :
    (concern.violation? build).Only (Effect.LooksIn build.metadata.namespaceName) := by
  cases concern with
  | secrets => exact only_secretsViolation? build
  | strategy => exact only_strategyViolation? build
  | sourceUrl => exact only_repositoryViolation? build
  | ownerReferences => exact (reader rfl).elim
  | _ => exact only_pure

theorem only_firstViolation? {allowed : Effect → Prop} (checks : allowed .isCancelled)
    (build : Build) {concerns : List Concern}
    (only : ∀ concern ∈ concerns, (concern.violation? build).Only allowed) :
    (firstViolation? build concerns).Only allowed := by
  induction concerns with
  | nil => exact only_pure
  | cons concern rest ih =>
    obtain ⟨first, later⟩ := List.forall_mem_cons.mp only
    refine Only.bind (only_checkpoint checks) fun _ => ?_
    refine Only.bind first fun found => ?_
    cases found with
    | none => exact ih later
    | some violation => exact only_pure

theorem only_readers {concerns : List Concern} (readers : .ownerReferences ∉ concerns)
    (build : Build) :
    (firstViolation? build concerns).Only (Effect.LooksIn build.metadata.namespaceName) :=
  only_firstViolation? trivial build fun _ member =>
    only_violation? (fun same => readers (same ▸ member)) build

end Concern

namespace BuildRun

variable (run : BuildRun)

theorem only_namedBuild (name : String) :
    (run.namedBuild name).Only (Effect.InquiresIn run.metadata.namespaceName) := by
  refine Only.bind (only_send (.inr ⟨_, rfl⟩)) fun found => ?_
  cases found with
  | none => exact only_pure
  | some build =>
    dsimp only
    split <;> first | exact only_pure | exact only_fail

theorem only_resolveBuild :
    run.resolveBuild.Only (Effect.InquiresIn run.metadata.namespaceName) := by
  unfold resolveBuild
  split
  · exact only_namedBuild run _
  · refine Only.bind ((Concern.only_readers (by decide) _).mono fun _ => .inl) fun found => ?_
    cases found <;> exact only_pure

theorem only_resolve : run.resolve.Only (Effect.InquiresIn run.metadata.namespaceName) := by
  unfold resolve
  split
  · exact only_pure
  · refine Only.bind (only_resolveBuild run) fun found => ?_
    cases found with
    | error failure => exact only_pure
    | ok build =>
      dsimp only
      split
      · exact only_pure
      · refine Only.bind ((StrategyRef.only_lookup _ _).mono fun _ => .inl) fun found => ?_
        cases found with
        | error violation => exact only_pure
        | ok strategy =>
          dsimp only
          split <;> exact only_pure

end BuildRun

end BuildController
