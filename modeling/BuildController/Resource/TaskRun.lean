import BuildController.Resource.Build
import BuildController.Resource.Task

/-! Task runs: tasks with the values of their parameters, handed to an engine that executes them
and reports in their status. -/
namespace BuildController

structure Param where
  name : String
  value : String
  deriving DecidableEq

instance : Wire Param :=
  Fields.wire (.cons (.required "name") <| .cons (.required "value") .nil)
    (fun p => (p.name, p.value, ())) (fun (name, value, ()) => { name, value })

/-- What is to be executed. The timeout is in seconds. -/
structure TaskRunSpec where
  taskSpec : TaskSpec
  params : List Param := []
  timeout : Option UInt64 := none
  serviceAccountName : Option String := none
  nodeSelector : Labels := .empty
  tolerations : List Toleration := []
  schedulerName : Option String := none
  deriving DecidableEq

instance : Wire TaskRunSpec :=
  Fields.wire
    (.cons (.required "taskSpec") <| .cons (.list "params") <| .cons (.optional "timeout") <|
      .cons (.optional "serviceAccountName") <| .cons (.map "nodeSelector") <|
      .cons (.list "tolerations") <| .cons (.optional "schedulerName") .nil)
    (fun s => (s.taskSpec, s.params, s.timeout, s.serviceAccountName, s.nodeSelector, s.tolerations,
      s.schedulerName, ()))
    (fun (taskSpec, params, timeout, serviceAccountName, nodeSelector, tolerations, schedulerName,
        ()) =>
      { taskSpec, params, timeout, serviceAccountName, nodeSelector, tolerations, schedulerName })

/-- How a step ended. Its message is free text, by convention a list of result entries. -/
structure StepTerminated where
  exitCode : Int32
  reason : String
  message : String
  deriving DecidableEq

instance : Wire StepTerminated :=
  Fields.wire
    (.cons (.withDefault "exitCode" 0) <| .cons (.withDefault "reason" "") <|
      .cons (.withDefault "message" "") .nil)
    (fun t => (t.exitCode, t.reason, t.message, ()))
    (fun (exitCode, reason, message, ()) => { exitCode, reason, message })

structure StepState where
  name : String
  terminated : Option StepTerminated
  deriving DecidableEq

instance : Wire StepState :=
  Fields.wire (.cons (.required "name") <| .cons (.optional "terminated") .nil)
    (fun s => (s.name, s.terminated, ())) (fun (name, terminated, ()) => { name, terminated })

structure TaskRunResult where
  name : String
  value : String
  deriving DecidableEq

instance : Wire TaskRunResult :=
  Fields.wire (.cons (.required "name") <| .cons (.required "value") .nil)
    (fun r => (r.name, r.value, ())) (fun (name, value, ()) => { name, value })

/-- What the engine reports. -/
structure TaskRunStatus where
  conditions : List Condition := []
  steps : List StepState := []
  results : List TaskRunResult := []
  startTime : Option Instant := none
  completionTime : Option Instant := none
  deriving DecidableEq

instance : Wire TaskRunStatus :=
  Fields.wire
    (.cons (.withDefault "conditions" []) <| .cons (.withDefault "steps" []) <|
      .cons (.withDefault "results" []) <| .cons (.optional "startTime") <|
      .cons (.optional "completionTime") .nil)
    (fun s => (s.conditions, s.steps, s.results, s.startTime, s.completionTime, ()))
    (fun (conditions, steps, results, startTime, completionTime, ()) =>
      { conditions, steps, results, startTime, completionTime })

def TaskRunStatus.succeeded? (s : TaskRunStatus) : Option Condition :=
  Condition.find? s.conditions Condition.succeededType

structure TaskRun where
  metadata : Metadata
  spec : TaskRunSpec
  status : TaskRunStatus := {}
  deriving DecidableEq

instance : Wire TaskRun :=
  Fields.wire
    (.cons (.required "metadata") <| .cons (.required "spec") <| .cons (.withDefault "status" {}) .nil)
    (fun t => (t.metadata, t.spec, t.status, ()))
    (fun (metadata, spec, status, ()) => { metadata, spec, status })

end BuildController
