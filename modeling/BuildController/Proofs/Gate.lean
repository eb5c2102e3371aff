import BuildController.Pass.Start
import BuildController.Proofs.Verdict

/-! The gate through which a run has to pass before it starts. Rules say what the gate makes of a
run, one for each check that can stop it and one for the run that meets all of them; a function
computes the verdict, and the pass ends with it. -/
namespace BuildController

/-- What the gate makes of a run: it admits the run with a value, or the run has to wait for a build
to be checked, or it fails. -/
inductive GateVerdict (α : Type)
  | admits (value : α)
  | waits (build : String)
  | fails (failure : RunFailure)

namespace GateVerdict

/-- Goes on with the value of a run that was admitted so far. -/
def bind (verdict : GateVerdict α) (next : α → GateVerdict β) : GateVerdict β :=
  match verdict with
  | admits value => next value
  | waits build => waits build
  | fails failure => fails failure

/-- How a pass ends that comes to the verdict. -/
def resolution : GateVerdict α → Except PassError (Except RunFailure α)
  | admits value => .ok (.ok value)
  | waits build => .error (.notRegistered build)
  | fails failure => .ok (.error failure)

end GateVerdict

namespace Cluster

/-- The build that a run can use: a registered one that it names, or one that it spells out and that
no concern objects to. -/
inductive Offers (c : Cluster) (run : BuildRun) : Build → Prop
  | registered (named : run.spec.build = ⟨some name, none⟩)
      (stored : c.builds.get? ⟨run.metadata.namespaceName, name⟩ = some build)
      (registered : build.status.registered = some .true) : Offers c run build
  | inline (spelled : run.spec.build = ⟨none, some spec⟩)
      (accepted : ∀ concern ∈ Concern.ofInlineBuild,
        c.verdict (run.inlineBuild spec) concern = none) : Offers c run (run.inlineBuild spec)

/-- Why a run gets no build. Of several violations the first counts. -/
inductive Denies (c : Cluster) (run : BuildRun) : RunFailure → Prop
  | missing (named : run.spec.build = ⟨some name, none⟩)
      (missing : c.builds.get? ⟨run.metadata.namespaceName, name⟩ = none) :
      Denies c run (.buildNotFound name)
  | rejected (named : run.spec.build = ⟨some name, none⟩)
      (stored : c.builds.get? ⟨run.metadata.namespaceName, name⟩ = some build)
      (rejected : build.status.registered = some .false) :
      Denies c run (.buildNotRegistered name build.status.reason)
  | violated (spelled : run.spec.build = ⟨none, some spec⟩)
      (violated : Concern.ofInlineBuild.findSome? (c.verdict (run.inlineBuild spec)) =
        some violation) : Denies c run (.violation violation)

/-- The rules of the gate. Each stands for one check and asks that all checks before it are met. -/
inductive Judges (c : Cluster) (run : BuildRun) : GateVerdict (Build × BuildStrategy) → Prop
  | conflict (conflict : run.spec.conflict? = some cause) : Judges c run (.fails (.conflict cause))
  | denied {failure : RunFailure} (plain : run.spec.conflict? = none)
      (denied : c.Denies run failure) : Judges c run (.fails failure)
  | unchecked (plain : run.spec.conflict? = none) (named : run.spec.build = ⟨some name, none⟩)
      (stored : c.builds.get? ⟨run.metadata.namespaceName, name⟩ = some build)
      (unchecked : build.status.registered = none ∨ build.status.registered = some .unknown) :
      Judges c run (.waits name)
  | env (plain : run.spec.conflict? = none) (offered : c.Offers run build)
      (invalid : envViolation? run.spec.env = some violation) :
      Judges c run (.fails (.violation violation))
  | strategy (plain : run.spec.conflict? = none) (offered : c.Offers run build)
      (env : envViolation? run.spec.env = none)
      (missing : c.strategyOf run.metadata.namespaceName build.spec.strategy = .error violation) :
      Judges c run (.fails (.violation violation))
  | params (plain : run.spec.conflict? = none) (offered : c.Offers run build)
      (env : envViolation? run.spec.env = none)
      (found : c.strategyOf run.metadata.namespaceName build.spec.strategy = .ok strategy)
      (invalid : paramsViolation? (mergeParamValues build.spec.paramValues run.spec.paramValues)
        strategy.spec = some violation) : Judges c run (.fails (.violation violation))
  | admitted (plain : run.spec.conflict? = none) (offered : c.Offers run build)
      (env : envViolation? run.spec.env = none)
      (found : c.strategyOf run.metadata.namespaceName build.spec.strategy = .ok strategy)
      (params : paramsViolation? (mergeParamValues build.spec.paramValues run.spec.paramValues)
        strategy.spec = none) : Judges c run (.admits (build, strategy))

/-- What the gate makes of the build that a run names. -/
def namedBuildVerdict (c : Cluster) (run : BuildRun) (name : String) : GateVerdict Build :=
  match c.builds.get? ⟨run.metadata.namespaceName, name⟩ with
  | none => .fails (.buildNotFound name)
  | some build =>
    match build.status.registered with
    | some .true => .admits build
    | some .false => .fails (.buildNotRegistered name build.status.reason)
    | some .unknown | none => .waits name

/-- What the gate makes of the build of a run. -/
def buildVerdict (c : Cluster) (run : BuildRun) : GateVerdict Build :=
  match run.spec.build.spec with
  | none => c.namedBuildVerdict run (run.spec.build.name.getD "")
  | some spec =>
    match Concern.ofInlineBuild.findSome? (c.verdict (run.inlineBuild spec)) with
    | some violation => .fails (.violation violation)
    | none => .admits (run.inlineBuild spec)

/-- What the gate makes of a run whose build is known. -/
def requestVerdict (c : Cluster) (run : BuildRun) (build : Build) :
    GateVerdict (Build × BuildStrategy) :=
  match envViolation? run.spec.env with
  | some violation => .fails (.violation violation)
  | none =>
    match c.strategyOf run.metadata.namespaceName build.spec.strategy with
    | .error violation => .fails (.violation violation)
    | .ok strategy =>
      match paramsViolation? (mergeParamValues build.spec.paramValues run.spec.paramValues)
          strategy.spec with
      | some violation => .fails (.violation violation)
      | none => .admits (build, strategy)

/-- The verdict of the gate. -/
def gate (c : Cluster) (run : BuildRun) : GateVerdict (Build × BuildStrategy) :=
  match run.spec.conflict? with
  | some conflict => .fails (.conflict conflict)
  | none => (c.buildVerdict run).bind (c.requestVerdict run)

end Cluster

variable {c : Cluster} {run : BuildRun}

theorem RunSpec.build_of_plain {spec : RunSpec} (plain : spec.conflict? = none) :
    (∃ name, spec.build = ⟨some name, none⟩) ∨ ∃ inline, spec.build = ⟨none, some inline⟩ := by
  unfold RunSpec.conflict? at plain
  obtain ⟨⟨name, inline⟩, _⟩ := spec
  cases name with
  | none =>
    cases inline with
    | none => cases plain
    | some inline => exact .inr ⟨inline, rfl⟩
  | some name =>
    cases inline with
    | none => exact .inl ⟨name, rfl⟩
    | some inline => cases plain

namespace Cluster

theorem judges_requestVerdict (plain : run.spec.conflict? = none) (offered : c.Offers run build) :
    c.Judges run (c.requestVerdict run build) := by
  unfold requestVerdict
  split
  · exact .env plain offered ‹_›
  · split
    · exact .strategy plain offered ‹_› ‹_›
    · split
      · exact .params plain offered ‹_› ‹_› ‹_›
      · exact .admitted plain offered ‹_› ‹_› ‹_›

theorem judges_gate (c : Cluster) (run : BuildRun) : c.Judges run (c.gate run) := by
  unfold gate
  split
  · exact .conflict ‹_›
  · next plain =>
    obtain ⟨name, named⟩ | ⟨spec, spelled⟩ := RunSpec.build_of_plain plain
    · simp only [buildVerdict, named, Option.getD_some, namedBuildVerdict]
      split
      · exact .denied plain (.missing named ‹_›)
      · split
        · exact judges_requestVerdict plain (.registered named ‹_› ‹_›)
        · exact .denied plain (.rejected named ‹_› ‹_›)
        · exact .unchecked plain named ‹_› (.inr ‹_›)
        · exact .unchecked plain named ‹_› (.inl ‹_›)
    · simp only [buildVerdict, spelled]
      split
      · exact .denied plain (.violated spelled ‹_›)
      · next accepted =>
        exact judges_requestVerdict plain (.inline spelled (List.findSome?_eq_none_iff.mp accepted))

theorem buildVerdict_of_offers (offered : c.Offers run build) :
    c.buildVerdict run = .admits build := by
  cases offered with
  | registered named stored registered =>
    simp [buildVerdict, named, namedBuildVerdict, stored, registered]
  | inline spelled accepted =>
    simp only [buildVerdict, spelled, List.findSome?_eq_none_iff.mpr accepted]

theorem buildVerdict_of_denies {failure : RunFailure} (denied : c.Denies run failure) :
    c.buildVerdict run = .fails failure := by
  cases denied with
  | missing named missing => simp [buildVerdict, named, namedBuildVerdict, missing]
  | rejected named stored rejected =>
    simp [buildVerdict, named, namedBuildVerdict, stored, rejected]
  | violated spelled violated => simp only [buildVerdict, spelled, violated]

theorem gate_of_plain (plain : run.spec.conflict? = none)
    (verdict : c.buildVerdict run = found) : c.gate run = found.bind (c.requestVerdict run) := by
  rw [gate, plain, verdict]

theorem gate_of_offers (plain : run.spec.conflict? = none) (offered : c.Offers run build) :
    c.gate run = c.requestVerdict run build :=
  gate_of_plain plain (buildVerdict_of_offers offered)

/-- The function computes the only verdict that the rules admit. -/
theorem judges_iff {verdict : GateVerdict (Build × BuildStrategy)} :
    c.Judges run verdict ↔ c.gate run = verdict := by
  constructor
  · intro judged
    cases judged with
    | conflict conflict => simp only [gate, conflict]
    | denied plain denied => exact gate_of_plain plain (buildVerdict_of_denies denied)
    | unchecked plain named stored unchecked =>
      rename_i name build
      have waits : c.buildVerdict run = .waits name := by
        rcases unchecked with unset | unknown
        · simp [buildVerdict, named, namedBuildVerdict, stored, unset]
        · simp [buildVerdict, named, namedBuildVerdict, stored, unknown]
      exact gate_of_plain plain waits
    | env plain offered invalid =>
      rw [gate_of_offers plain offered]
      simp only [requestVerdict, invalid]
    | strategy plain offered env missing =>
      rw [gate_of_offers plain offered]
      simp only [requestVerdict, env, missing]
    | params plain offered env found invalid =>
      rw [gate_of_offers plain offered]
      simp only [requestVerdict, env, found, invalid]
    | admitted plain offered env found params =>
      rw [gate_of_offers plain offered]
      simp only [requestVerdict, env, found, params]
  · rintro rfl
    exact judges_gate c run

end Cluster

namespace BuildRun

theorem reads_namedBuild (name : String) :
    (run.namedBuild name).Reads c (c.namedBuildVerdict run name).resolution := by
  refine Pass.Reads.bind (Pass.reads_send rfl) ?_
  unfold Cluster.namedBuildVerdict
  cases c.builds.get? ⟨run.metadata.namespaceName, name⟩ with
  | none => exact Pass.reads_pure
  | some build =>
    cases registered : build.status.registered with
    | none =>
      simp only [registered]
      exact Pass.reads_fail
    | some status =>
      cases status <;> simp only [registered]
      · exact Pass.reads_pure
      · exact Pass.reads_pure
      · exact Pass.reads_fail

theorem reads_resolveBuild : run.resolveBuild.Reads c (c.buildVerdict run).resolution := by
  unfold resolveBuild Cluster.buildVerdict
  cases run.spec.build.spec with
  | none => exact reads_namedBuild _
  | some spec =>
    refine Pass.Reads.bind (Concern.reads_firstViolation? (by decide)) ?_
    dsimp only
    cases Concern.ofInlineBuild.findSome? (c.verdict (run.inlineBuild spec)) with
    | none => exact Pass.reads_pure
    | some violation => exact Pass.reads_pure

/-- The resolution of a run ends with the verdict of the gate, and writes nothing. -/
theorem reads_resolve : run.resolve.Reads c (c.gate run).resolution := by
  unfold resolve Cluster.gate
  cases run.spec.conflict? with
  | some conflict => exact Pass.reads_pure
  | none =>
    have found : run.resolveBuild.Reads c (c.buildVerdict run).resolution := reads_resolveBuild
    cases verdict : c.buildVerdict run with
    | waits build =>
      rw [verdict] at found
      exact Pass.Reads.bind_error found
    | fails failure =>
      rw [verdict] at found
      exact Pass.Reads.bind found Pass.reads_pure
    | admits build =>
      rw [verdict] at found
      refine Pass.Reads.bind found ?_
      simp only [GateVerdict.bind, Cluster.requestVerdict]
      cases envViolation? run.spec.env with
      | some violation => exact Pass.reads_pure
      | none =>
        refine Pass.Reads.bind (StrategyRef.reads_lookup _) ?_
        cases c.strategyOf run.metadata.namespaceName build.spec.strategy with
        | error violation => exact Pass.reads_pure
        | ok strategy =>
          dsimp only
          cases paramsViolation? (mergeParamValues build.spec.paramValues run.spec.paramValues)
            strategy.spec <;> exact Pass.reads_pure

end BuildRun

end BuildController
