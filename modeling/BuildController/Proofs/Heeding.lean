import BuildController.Proofs.Advance
import BuildController.Proofs.System

/-! Requests that fail. A pass heeds its requests: whichever of them fails, the pass ends there,
with the error of the request and nothing else. This holds of the parts from which passes are made,
and no part of a pass handles an error. -/
namespace BuildController

namespace Pass

/-- The continuation of a request passes on its error. -/
def PassesOn : (effect : Effect) → (effect.Answer → Pass α) → Prop
  | .send _, resume => ∀ error, resume (.error error) = done (.error (.request error))
  | _, _ => True

/-- Whatever the answers, a request that fails ends the pass with its error. -/
def Heeds : Pass α → Prop
  | done _ => True
  | perform effect resume => PassesOn effect resume ∧ ∀ answer, (resume answer).Heeds

theorem heeds_pure : (pure a : Pass α).Heeds := trivial

theorem heeds_fail : (fail e : Pass α).Heeds := trivial

theorem heeds_send : (send request).Heeds := by
  refine ⟨fun error => rfl, fun answer => ?_⟩
  cases answer <;> trivial

theorem heeds_probe : (probe url).Heeds := ⟨trivial, fun _ => trivial⟩

theorem ReadsClock.heeds {read : Pass Readings} (reads : read.ReadsClock) : read.Heeds := by
  cases reads <;> exact ⟨trivial, fun _ => ⟨trivial, fun _ => trivial⟩⟩

theorem heeds_randomSuffix : randomSuffix.Heeds := ⟨trivial, fun _ => trivial⟩

theorem heeds_checkpoint : checkpoint.Heeds := by
  refine ⟨trivial, fun cancelled => ?_⟩
  cases cancelled <;> trivial

theorem Heeds.bind {pass : Pass α} {next : α → Pass β} (first : pass.Heeds)
    (rest : ∀ value, (next value).Heeds) : (pass >>= next).Heeds := by
  -- Until the first pass is done its continuations are unchanged, and an error skips the second.
  change (pass.bind next).Heeds
  induction pass with
  | done outcome =>
    cases outcome with
    | ok value => exact rest value
    | error error => trivial
  | perform effect resume ih =>
    refine ⟨?_, fun answer => ih answer (first.2 answer)⟩
    cases effect with
    | send request =>
      intro error
      exact congrArg (fun pass => pass.bind next) (first.1 error)
    | _ => trivial

end Pass

open Pass

theorem StrategyRef.heeds_lookup (ns : String) (ref : StrategyRef) : (ref.lookup ns).Heeds := by
  unfold StrategyRef.lookup
  cases ref.resolvedKind with
  | error kind => exact heeds_pure
  | ok kind =>
    cases kind <;>
    · refine heeds_send.bind fun found => ?_
      cases found <;> exact heeds_pure

theorem heeds_missingSecret? (ns : String) (secret : Option String) :
    (missingSecret? ns secret).Heeds := by
  cases secret with
  | none => exact heeds_pure
  | some name => exact heeds_send.bind fun _ => heeds_pure

theorem heeds_repositoryViolation? (build : Build) : (repositoryViolation? build).Heeds := by
  unfold repositoryViolation?
  split
  · exact heeds_pure
  · split
    · exact heeds_pure
    · split
      · exact heeds_pure
      · split
        · exact heeds_pure
        · exact heeds_probe.bind fun _ => heeds_pure

theorem heeds_strategyViolation? (build : Build) : (strategyViolation? build).Heeds := by
  refine (StrategyRef.heeds_lookup _ _).bind fun found => ?_
  cases found <;> exact heeds_pure

theorem heeds_adjustRuns (build : Build) (retain : Bool) (runs : List BuildRun) :
    (adjustRuns build retain runs).Heeds := by
  induction runs with
  | nil => exact heeds_pure
  | cons run rest ih =>
    unfold adjustRuns
    split
    · exact ih
    · exact heeds_pure
    · exact heeds_send.bind fun _ => ih

theorem heeds_ownershipViolation? (build : Build) : (ownershipViolation? build).Heeds := by
  unfold ownershipViolation?
  split
  · exact heeds_pure
  · exact heeds_send.bind fun _ => heeds_adjustRuns _ _ _

namespace Concern

theorem heeds_violation? (build : Build) (concern : Concern) :
    (concern.violation? build).Heeds := by
  cases concern with
  | secrets =>
    exact (heeds_missingSecret? _ _).bind fun _ => (heeds_missingSecret? _ _).bind fun _ =>
      heeds_pure
  | strategy => exact heeds_strategyViolation? build
  | sourceUrl => exact heeds_repositoryViolation? build
  | ownerReferences => exact heeds_ownershipViolation? build
  | _ => exact heeds_pure

theorem heeds_firstViolation? (build : Build) (concerns : List Concern) :
    (firstViolation? build concerns).Heeds := by
  induction concerns with
  | nil => exact heeds_pure
  | cons concern rest ih =>
    refine heeds_checkpoint.bind fun _ => (heeds_violation? build concern).bind fun found => ?_
    cases found with
    | none => exact ih
    | some violation => exact heeds_pure

end Concern

theorem Build.heeds_register (ns name : String) : (Build.register ns name).Heeds := by
  refine heeds_send.bind fun found => ?_
  cases found with
  | none => exact heeds_pure
  | some build => exact (Concern.heeds_firstViolation? _ _).bind fun _ => heeds_send

namespace BuildRun

theorem heeds_namedBuild (run : BuildRun) (name : String) : (run.namedBuild name).Heeds := by
  refine heeds_send.bind fun found => ?_
  cases found with
  | none => exact heeds_pure
  | some build =>
    dsimp only
    split <;> first | exact heeds_pure | exact heeds_fail

theorem heeds_resolveBuild (run : BuildRun) : run.resolveBuild.Heeds := by
  unfold resolveBuild
  split
  · exact heeds_namedBuild run _
  · refine (Concern.heeds_firstViolation? _ _).bind fun found => ?_
    cases found <;> exact heeds_pure

theorem heeds_resolve (run : BuildRun) : run.resolve.Heeds := by
  unfold resolve
  split
  · exact heeds_pure
  · refine (heeds_resolveBuild run).bind fun found => ?_
    cases found with
    | error failure => exact heeds_pure
    | ok build =>
      dsimp only
      split
      · exact heeds_pure
      · refine (StrategyRef.heeds_lookup _ _).bind fun found => ?_
        cases found with
        | error violation => exact heeds_pure
        | ok strategy =>
          dsimp only
          split <;> exact heeds_pure

theorem heeds_taskRunName (run : BuildRun) : run.taskRunName.Heeds := by
  unfold taskRunName
  split
  · exact heeds_pure
  · exact heeds_randomSuffix.bind fun _ => heeds_pure

theorem heeds_ensureTaskRun (settings : Settings) (run : BuildRun) (name : String) (build : Build)
    (strategy : BuildStrategy) : (run.ensureTaskRun settings name build strategy).Heeds := by
  refine heeds_send.bind fun found => ?_
  cases found with
  | some taskRun => exact heeds_pure
  | none => exact (heeds_taskRunName run).bind fun _ => heeds_send

theorem heeds_start (settings : Settings) (run : BuildRun) : (run.start settings).Heeds := by
  refine (heeds_resolve run).bind fun found => ?_
  cases found with
  | error failure => exact ReadsClock.atEnd.heeds.bind fun _ => heeds_pure
  | ok value =>
    refine heeds_checkpoint.bind fun _ => (heeds_taskRunName run).bind fun name => ?_
    refine (heeds_ensureTaskRun _ _ _ _ _).bind fun _ => ?_
    exact ReadsClock.atStart.heeds.bind fun _ => heeds_pure

theorem heeds_follow (run : BuildRun) (taskRun : String) : (run.follow taskRun).Heeds := by
  refine heeds_send.bind fun found => ?_
  cases found <;> exact ReadsClock.atEnd.heeds.bind fun _ => heeds_pure

theorem heeds_advance (settings : Settings) (ns name : String) :
    (advance settings ns name).Heeds := by
  rw [advance_eq]
  refine heeds_send.bind fun found => ?_
  cases found with
  | none => exact heeds_pure
  | some run =>
    dsimp only
    split
    · exact heeds_pure
    · refine Heeds.bind ?_ fun _ => heeds_send
      unfold BuildRun.next
      split
      · exact heeds_start settings run
      · exact heeds_follow run _

end BuildRun

theorem Subject.heeds_pass (settings : Settings) (subject : Subject) :
    (subject.pass settings).Heeds := by
  cases subject with
  | build key => exact Build.heeds_register _ _
  | run key => exact BuildRun.heeds_advance _ _ _

end BuildController
