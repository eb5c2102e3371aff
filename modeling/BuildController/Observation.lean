import BuildController.Resource.BuildRun
import BuildController.Resource.Listing
import BuildController.Resource.TaskRun
import BuildController.TaskRunPlan

/-! What a build run learns from its task run: its condition and times, the reason of a failure that
a step left behind, and the results of a success. -/
namespace BuildController.Observation

/-- The reason under which the engine reports a step that failed. -/
def failedReason : String := "Failed"

/-- The reason under which the engine reports a timeout. -/
def timeoutReason : String := "TaskRunTimeout"

/-- The reason under which the engine reports a cancellation. -/
def cancelledReason : String := "TaskRunCancelled"

/-- The reason under which the engine reports that no step has started. -/
def pendingReason : String := "Pending"

def timeoutMessage (run : BuildRun) (taskRun : TaskRun) : String :=
  "BuildRun " ++ run.metadata.name ++ " failed to finish within " ++
    match taskRun.spec.timeout with
    | some seconds => toString seconds.toNat ++ "s"
    | none => "its timeout"

def cancelledMessage : String := "The BuildRun and underlying TaskRun were canceled successfully."

/-- Status, reason and message of a run whose task run has the given condition. -/
def verdict (run : BuildRun) (taskRun : TaskRun) : ConditionStatus × RunReason × String :=
  match taskRun.status.succeeded? with
  | none => (.unknown, .pending, "")
  | some c =>
    match c.status with
    | .unknown => (.unknown, if c.reason = pendingReason then .pending else .running, c.message)
    | .true => (.true, .succeeded, c.message)
    | .false =>
      if c.reason = timeoutReason then (.false, .timeout, timeoutMessage run taskRun)
      else if c.reason = cancelledReason then (.false, .canceled, cancelledMessage)
      else (.false, .failed, c.message)

/-- Takes over condition and times. A run that is over always has a completion time, the present if
none is known. -/
def conditions (now : Readings) (run : BuildRun) (taskRun : TaskRun) : BuildRun :=
  let (status, reason, message) := verdict run taskRun
  let known := run.status.setSucceeded now.condition status reason.text message
  let started := known.startTime.or taskRun.status.startTime
  let completed :=
    if status = .unknown then known.completionTime
    else (taskRun.status.completionTime.or known.completionTime).or (some now.time)
  { run with status := { known with startTime := started, completionTime := completed } }

def entry? (entries : List ResultEntry) (key : String) : Option String :=
  (entries.find? fun e => e.key = key).map (·.value)

def stepFailure? (step : StepState) : Option FailureDetails := do
  let terminated ← step.terminated
  if terminated.message = "" then none
  let entries ← ResultEntry.ofMessage? terminated.message
  let reason ← entry? entries TaskRunPlan.errorReasonResult
  let message ← entry? entries TaskRunPlan.errorMessageResult
  return { reason, message }

def hasFailed (taskRun : TaskRun) : Bool :=
  match taskRun.status.succeeded? with
  | some c => c.agrees Condition.succeededType .false failedReason
  | none => false

/-- Takes over the failure of the first step that reports one. -/
def failures (run : BuildRun) (taskRun : TaskRun) : BuildRun :=
  if hasFailed taskRun then
    match taskRun.status.steps.findSome? stepFailure? with
    | some details => { run with status := { run.status with failure := some details } }
    | none => run
  else run

/-- The value of the first result with a name, without blanks around it. -/
def result? (taskRun : TaskRun) (name : String) : Option String :=
  (taskRun.status.results.find? fun r => r.name = name).map fun r => Text.trim r.value

/-- The pushed image, if its digest is known. -/
def output? (taskRun : TaskRun) : Option OutputResult :=
  (result? taskRun TaskRunPlan.imageDigestResult).map fun digest =>
    { digest, size := (result? taskRun TaskRunPlan.imageSizeResult).bind Text.int64? }

/-- Replaces the first source of the same name, or appends the source. -/
def setSource (source : SourceResult) : List SourceResult → List SourceResult
  | [] => [source]
  | old :: rest =>
    if old.name = source.name then source :: rest else old :: setSource source rest

/-- The fetched git source, if its commit is known. -/
def gitSource? (taskRun : TaskRun) : Option SourceResult :=
  (result? taskRun (SourceSteps.commitResult SourceSteps.defaultName)).map fun commit =>
    { name := SourceSteps.defaultName, commitSha := some commit }

def results (run : BuildRun) (taskRun : TaskRun) : BuildRun :=
  let sources := match gitSource? taskRun with
    | some source => setSource source run.status.sources
    | none => run.status.sources
  { run with
    status := { run.status with output := (output? taskRun).or run.status.output, sources } }

def hasSucceeded (taskRun : TaskRun) : Bool :=
  match taskRun.status.succeeded? with
  | some c => c.status = .true
  | none => false

/-- Takes over all there is to learn; results count only after a success. -/
def observe (now : Readings) (run : BuildRun) (taskRun : TaskRun) : BuildRun :=
  let run := failures (conditions now run taskRun) taskRun
  if hasSucceeded taskRun then results run taskRun else run

end BuildController.Observation
