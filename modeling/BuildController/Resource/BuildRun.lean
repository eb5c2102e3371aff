import BuildController.Resource.Build

/-! Build runs: requests to run a build once, either one that is stored under a name or one that the
run spells out itself. -/
namespace BuildController

/-- The build to run: its name, or its specification. -/
structure BuildRef where
  name : Option String := none
  spec : Option BuildSpec := none
  deriving DecidableEq

instance : Wire BuildRef :=
  Fields.wire (.cons (.optional "name") <| .cons (.optional "spec") .nil)
    (fun r => (r.name, r.spec, ())) (fun (name, spec, ()) => { name, spec })

/-- What a run is asked to be: a build, and settings that override those of the build. -/
structure RunSpec where
  build : BuildRef
  output : Option Image := none
  paramValues : List ParamValue := []
  env : List EnvVar := []
  timeout : Option UInt64 := none
  serviceAccount : Option String := none
  deriving DecidableEq

instance : Wire RunSpec :=
  Fields.wire
    (.cons (.required "build") <| .cons (.optional "output") <| .cons (.list "paramValues") <|
      .cons (.list "env") <| .cons (.optional "timeout") <| .cons (.optional "serviceAccount") .nil)
    (fun s => (s.build, s.output, s.paramValues, s.env, s.timeout, s.serviceAccount, ()))
    (fun (build, output, paramValues, env, timeout, serviceAccount, ()) =>
      { build, output, paramValues, env, timeout, serviceAccount })

/-- Why a step failed, in its own words. -/
structure FailureDetails where
  reason : String
  message : String
  deriving DecidableEq

instance : Wire FailureDetails :=
  Fields.wire (.cons (.required "reason") <| .cons (.required "message") .nil)
    (fun f => (f.reason, f.message, ())) (fun (reason, message, ()) => { reason, message })

structure OutputResult where
  digest : String
  size : Option Int64
  deriving DecidableEq

instance : Wire OutputResult :=
  Fields.wire (.cons (.withDefault "digest" "") <| .cons (.optional "size") .nil)
    (fun r => (r.digest, r.size, ())) (fun (digest, size, ()) => { digest, size })

structure SourceResult where
  name : String
  commitSha : Option String
  deriving DecidableEq

instance : Wire SourceResult :=
  Fields.wire (.cons (.required "name") <| .cons (.optional "commitSha") .nil)
    (fun r => (r.name, r.commitSha, ())) (fun (name, commitSha, ()) => { name, commitSha })

/-- What is known about a run. -/
structure RunStatus where
  conditions : List Condition := []
  taskRunName : Option String := none
  startTime : Option Instant := none
  completionTime : Option Instant := none
  failure : Option FailureDetails := none
  output : Option OutputResult := none
  sources : List SourceResult := []
  deriving DecidableEq

instance : Wire RunStatus :=
  Fields.wire
    (.cons (.list "conditions") <| .cons (.optional "taskRunName") <|
      .cons (.optional "startTime") <| .cons (.optional "completionTime") <|
      .cons (.optional "failure") <| .cons (.optional "output") <| .cons (.list "sources") .nil)
    (fun s => (s.conditions, s.taskRunName, s.startTime, s.completionTime, s.failure, s.output,
      s.sources, ()))
    (fun (conditions, taskRunName, startTime, completionTime, failure, output, sources, ()) =>
      { conditions, taskRunName, startTime, completionTime, failure, output, sources })

namespace RunStatus

def succeeded? (s : RunStatus) : Option Condition :=
  Condition.find? s.conditions Condition.succeededType

def setSucceeded (s : RunStatus) (now : Instant) (status : ConditionStatus)
    (reason message : String) : RunStatus :=
  { s with conditions := (Condition.succeeded now status reason message).set s.conditions }

/-- A run is done once it is known whether it succeeded. -/
def isDone (s : RunStatus) : Bool :=
  match s.succeeded? with
  | some c => c.status ≠ .unknown
  | none => false

end RunStatus

structure BuildRun where
  metadata : Metadata
  spec : RunSpec
  status : RunStatus := {}
  deriving DecidableEq

instance : Wire BuildRun :=
  Fields.wire
    (.cons (.required "metadata") <| .cons (.required "spec") <| .cons (.withDefault "status" {}) .nil)
    (fun b => (b.metadata, b.spec, b.status, ()))
    (fun (metadata, spec, status, ()) => { metadata, spec, status })

/-- What the clock shows when a status of a run is made: it is read once for the condition, and once
for the start or the completion of the run. -/
structure Readings where
  condition : Instant
  time : Instant

/-- A clock that stands still shows the same both times. -/
instance : Coe Instant Readings := ⟨fun now => ⟨now, now⟩⟩

def BuildRun.kind : String := "BuildRun"

/-- The label with the name of the build that a run belongs to. -/
def buildLabel : String := "build.kiln.dev/name"

/-- The label with the name of the build run that a task run belongs to. -/
def runLabel : String := "buildrun.kiln.dev/name"

end BuildController
