import BuildController.Concern.Basic
import BuildController.RunFailure
import BuildController.TaskRunPlan

/-! The start of a build run. Its build is found, what it asks for is checked, and the task run
that executes it is created. A run that cannot start fails for a reason that no repetition would
change. -/
namespace BuildController

namespace BuildRun

/-- The build that a run spells out: one without a name, in the namespace of the run. -/
def inlineBuild (run : BuildRun) (spec : BuildSpec) : Build :=
  { metadata := { name := "", ns := some run.metadata.namespaceName }, spec }

/-- The build that a run names. It has to be registered; one that was not checked yet ends the
pass. -/
def namedBuild (run : BuildRun) (name : String) : Pass (Except RunFailure Build) := do
  match ← Pass.send (.getBuild run.metadata.namespaceName name) with
  | none => return .error (.buildNotFound name)
  | some build =>
    match build.status.registered with
    | some .true => return .ok build
    | some .false => return .error (.buildNotRegistered name build.status.reason)
    | some .unknown | none => Pass.fail (.notRegistered name)

def resolveBuild (run : BuildRun) : Pass (Except RunFailure Build) :=
  match run.spec.build.spec with
  | none => run.namedBuild (run.spec.build.name.getD "")
  | some spec => do
    match ← Concern.firstViolation? (run.inlineBuild spec) Concern.ofInlineBuild with
    | some violation => return .error (.violation violation)
    | none => return .ok (run.inlineBuild spec)

/-- What a run is to execute: a build with a strategy for it, or why it cannot start. -/
def resolve (run : BuildRun) : Pass (Except RunFailure (Build × BuildStrategy)) := do
  if let some conflict := run.spec.conflict? then return .error (.conflict conflict)
  match ← run.resolveBuild with
  | .error failure => return .error failure
  | .ok build =>
    if let some violation := envViolation? run.spec.env then return .error (.violation violation)
    match ← build.spec.strategy.lookup run.metadata.namespaceName with
    | .error violation => return .error (.violation violation)
    | .ok strategy =>
      match paramsViolation? (mergeParamValues build.spec.paramValues run.spec.paramValues)
          strategy.spec with
      | some violation => return .error (.violation violation)
      | none => return .ok (build, strategy)

/-- The name of the task run of a run. If the identifier of the run is too short to derive it, the
name is a new one each time. -/
def taskRunName (run : BuildRun) : Pass String :=
  match TaskRunPlan.nameSuffix? run.metadata.uid with
  | some suffix => pure (TaskRunPlan.nameWith run suffix)
  | none => do return TaskRunPlan.nameWith run (← Pass.randomSuffix)

/-- Creates the task run of a run unless there is one of its name. -/
def ensureTaskRun (settings : Settings) (run : BuildRun) (name : String) (build : Build)
    (strategy : BuildStrategy) : Pass Unit := do
  match ← Pass.send (.getTaskRun run.metadata.namespaceName name) with
  | some _ => return ()
  | none =>
    Pass.send (.createTaskRun
      (TaskRun.plan settings (← run.taskRunName) build run strategy.spec))

def started (run : BuildRun) (now : Readings) (taskRun : String) : BuildRun :=
  let status :=
    { run.status with
      taskRunName := some taskRun
      startTime := some (run.status.startTime.getD now.time) }
  { run with status := status.setSucceeded now.condition .unknown RunReason.pending.text "" }

def start (settings : Settings) (run : BuildRun) : Pass BuildRun := do
  match ← run.resolve with
  | .error failure => return run.failed (← Pass.readEnd) failure
  | .ok (build, strategy) =>
    Pass.checkpoint
    let name ← run.taskRunName
    run.ensureTaskRun settings name build strategy
    return run.started (← Pass.readStart) name

end BuildRun

end BuildController
