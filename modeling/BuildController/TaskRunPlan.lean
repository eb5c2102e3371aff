import BuildController.Merge
import BuildController.Resource.BuildRun
import BuildController.Resource.Strategy
import BuildController.Resource.TaskRun
import BuildController.SourceSteps

/-! The task run that executes a build run: steps that fetch the sources and then the steps of the
strategy, with the settings of the build under the overrides of the run. -/
namespace BuildController

namespace TaskRunPlan

def outputImageParam : String := "kiln-output-image"
def sourceContextParam : String := "kiln-source-context"
def outputTimestampParam : String := "kiln-output-timestamp"
def imageDigestResult : String := "kiln-image-digest"
def imageSizeResult : String := "kiln-image-size"
def errorReasonResult : String := "kiln-result-error-reason"
def errorMessageResult : String := "kiln-result-error-message"

def sourceRoot : String := "/workspace/source"

def pushSecretVolume : String := "kiln-push-secret"
def pushSecretPath : String := "/workspace/kiln-push-secret"

/-- The first five letters and digits of an identifier in lower case, if it has five. -/
def nameSuffix? (uid : String) : Option String :=
  let suffix := ((uid.toList.filter Char.isAlphanum).map Char.toLower).take 5
  if suffix.length = 5 then some (.ofList suffix) else none

/-- The name of the task run of a build run. It depends on nothing but name and identifier of the
run, so a repeated pass finds the task run of an earlier one. -/
def nameWith (run : BuildRun) (suffix : String) : String := run.metadata.name ++ "-" ++ suffix

/-- The output image of a run: that of the run itself, or that of its build. -/
def outputImage (build : Build) (run : BuildRun) : Image := run.spec.output.getD build.spec.output

/-- The parameters that the controller declares in every task. -/
def ownParams : List ParamSpec :=
  [⟨outputImageParam, "The URL of the image that the build produces", none⟩,
    ⟨SourceSteps.rootParam, "The root path which contains the source", none⟩,
    ⟨sourceContextParam, "The context directory inside the source", none⟩,
    ⟨outputTimestampParam, "The timestamp policy of the image", none⟩]

def ownResults : List TaskResult :=
  [⟨imageDigestResult, "The digest of the image"⟩,
    ⟨imageSizeResult, "The compressed size of the image"⟩,
    ⟨errorReasonResult, "The error reason of the build"⟩,
    ⟨errorMessageResult, "The error description of the build"⟩]

def pushVolumes (pushSecret : Option String) : List Volume :=
  match pushSecret with
  | some secret => [{ name := pushSecretVolume, secretName := some secret }]
  | none => []

def pushMounts (pushSecret : Option String) : List VolumeMount :=
  if pushSecret.isSome then
    [{ name := pushSecretVolume, mountPath := pushSecretPath, readOnly := true }]
  else []

/-- A step of the strategy in the environment of the run. -/
def strategyStep (pushSecret : Option String) (env : List EnvVar) (step : Step) : Step :=
  { step with
    env := mergeEnv step.env env
    volumeMounts := step.volumeMounts ++ pushMounts pushSecret }

def taskSpec (settings : Settings) (build : Build) (run : BuildRun) (strategy : StrategySpec) :
    TaskSpec :=
  let fetched : TaskSpec :=
    TaskSpec.addSources settings build.spec
      { params := ownParams ++ strategy.parameters, results := ownResults }
  let pushSecret := (outputImage build run).pushSecret
  let env := mergeEnv build.spec.env run.spec.env
  { fetched with
    volumes := fetched.volumes ++ pushVolumes pushSecret
    steps := fetched.steps ++ strategy.steps.map (strategyStep pushSecret env) }

/-- The directory in which the build runs: the context directory of the source, slashes at its ends
dropped, below the root. -/
def sourceContext (spec : BuildSpec) : String :=
  match spec.source.bind (·.contextDir) with
  | some dir =>
    if dir = "" then sourceRoot
    else sourceRoot ++ "/" ++ Text.trimWhere (· = '/') dir
  | none => sourceRoot

/-- The value that is passed for a parameter of the strategy: that of the run, or that of the
build. -/
def paramValue? (build : Build) (run : BuildRun) (name : String) : Option String :=
  (ParamValue.find? run.spec.paramValues name).or (ParamValue.find? build.spec.paramValues name)

/-- The values of the parameters that the controller declares. -/
def ownParamValues (build : Build) (run : BuildRun) : List Param :=
  let output := outputImage build run
  [⟨outputImageParam, output.image⟩, ⟨SourceSteps.rootParam, sourceRoot⟩,
    ⟨sourceContextParam, sourceContext build.spec⟩,
    ⟨outputTimestampParam, output.timestamp.getD ""⟩]

def params (build : Build) (run : BuildRun) (strategy : StrategySpec) : List Param :=
  ownParamValues build run ++ strategy.parameters.filterMap fun declared =>
    (paramValue? build run declared.name).map fun value => ⟨declared.name, value⟩

/-- The labels of a task run. A build that a run spells out itself has no name. -/
def labels (build : Build) (run : BuildRun) : Labels :=
  let ofRun : Labels := OrderedMap.empty.insert runLabel run.metadata.name
  if build.metadata.name = "" then ofRun else ofRun.insert buildLabel build.metadata.name

def ownerReference (run : BuildRun) : OwnerReference :=
  { apiVersion := apiVersion, kind := BuildRun.kind, name := run.metadata.name,
    uid := run.metadata.uid, controller := some true }

/-- The timeout of a run in seconds: its own, that of its build or that of the settings. -/
def timeout (settings : Settings) (build : Build) (run : BuildRun) : Option UInt64 :=
  (run.spec.timeout.or build.spec.timeout).or
    (settings.defaultBuildTimeout.map fun d => UInt64.ofNat d.seconds)

end TaskRunPlan

open TaskRunPlan in
def TaskRun.plan (settings : Settings) (name : String) (build : Build) (run : BuildRun)
    (strategy : StrategySpec) : TaskRun :=
  { metadata :=
      { name, ns := some run.metadata.namespaceName, labels := labels build run
        ownerReferences := [ownerReference run] }
    spec :=
      { taskSpec := taskSpec settings build run strategy
        params := params build run strategy
        timeout := timeout settings build run
        serviceAccountName := run.spec.serviceAccount
        nodeSelector := build.spec.nodeSelector
        tolerations := build.spec.tolerations
        schedulerName := build.spec.schedulerName } }

end BuildController
