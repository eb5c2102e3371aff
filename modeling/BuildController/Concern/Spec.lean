import BuildController.Concern.Violation
import BuildController.Resource.Build
import BuildController.SourceSteps
import BuildController.Url.Parser

/-! Checks of a build that need nothing but the build itself. Each answers with the first violation
it finds. -/
namespace BuildController

namespace HttpSource

/-- What is wrong with a source that stands after sources of the given names. -/
def problem? (earlier : List String) (source : HttpSource) : Option SourceProblem :=
  if source.name = "" then some .nameEmpty
  else if source.name = SourceSteps.defaultName then some (.nameReserved source.name)
  else if source.name ∈ earlier then some (.nameRepeated source.name)
  else if source.url = "" then some (.urlEmpty source.name)
  else if ((Url.ofText? source.url).map Url.isHttp).getD false then none
  else some (.urlInvalid source.name source.url)

/-- The first problem with sources that stand after sources of the given names. -/
def firstProblem? (earlier : List String) : List HttpSource → Option SourceProblem
  | [] => none
  | source :: rest => (source.problem? earlier).or (firstProblem? (source.name :: earlier) rest)

end HttpSource

def EnvVar.violation? (v : EnvVar) : Option Violation :=
  if Text.blank v.name then some .envNameBlank
  else if v.hasValue && v.valueFrom.isSome then some .envValueAmbiguous
  else none

/-- Checks environment variables, those of a build or those that override them in a run. -/
def envViolation? (env : List EnvVar) : Option Violation := env.findSome? EnvVar.violation?

def TriggerEvent.githubType : String := "GitHub"

def TriggerEvent.imageType : String := "Image"

def TriggerEvent.pipelineType : String := "Pipeline"

/-- Checks one event: the part that belongs to its type has to be there and to name something. -/
def TriggerEvent.problem? (event : TriggerEvent) : Option TriggerProblem :=
  if event.type = githubType then
    if ((event.github.map (·.events)).getD []).isEmpty then some .eventsMissing else none
  else if event.type = imageType then
    if ((event.image.map (·.names)).getD []).isEmpty then some .imageNamesMissing else none
  else if event.type = pipelineType then
    match event.objectRef with
    | none => some .objectsMissing
    | some objects =>
      if objects.status.isEmpty then some .objectStatusMissing
      else if objects.name.isNone && objects.selector.isEmpty then some .objectsNotSelected
      else none
  else some (.typeUnknown event.type)

/-- Checks one entry of a node selector, which has to be a label. -/
def nodeSelectorViolation? (entry : String × String) : Option Violation :=
  match Label.nameProblems entry.1.toList, Label.valueProblems entry.2.toList with
  | [], [] => none
  | [], problems => some (.nodeSelectorValue problems)
  | problems, _ => some (.nodeSelectorKey problems)

namespace Toleration

def existsOperator : String := "Exists"
def equalOperator : String := "Equal"
def supportedEffect : String := "NoSchedule"

/-- What is wrong with the operator, given the value it is applied to. -/
def operatorProblem? (operator value : String) : Option TolerationProblem :=
  if operator = existsOperator then if value = "" then none else some .valueNotEmpty
  else if operator = equalOperator then none
  else if operator = "" then some .operatorMissing
  else some (.operatorUnknown operator)

def effectProblem? (t : Toleration) : Option TolerationProblem :=
  match Label.valueProblems t.value.toList with
  | [] =>
    if t.effect = "" ∨ t.effect = supportedEffect then none
    else some (.effectUnsupported t.effect)
  | problems => some (.value problems)

def problem? (t : Toleration) : Option TolerationProblem :=
  match Label.nameProblems t.key.toList with
  | [] => (operatorProblem? (t.operator.getD "") t.value).or t.effectProblem?
  | problems => some (.key problems)

end Toleration

namespace Image

/-- The timestamp policy that takes over the time of the source. -/
def sourceTimestamp : String := "SourceTimestamp"

/-- The timestamp policies that need no source, the empty one included. -/
def freeTimestamps : List String := ["", "Zero", "BuildTimestamp"]

end Image

namespace BuildSpec

def sourcesViolation? (spec : BuildSpec) : Option Violation :=
  (HttpSource.firstProblem? [] spec.sources).map .source

/-- Checks the timestamp policy of the output image: a name or a number of seconds. -/
def outputViolation? (spec : BuildSpec) : Option Violation :=
  match spec.output.timestamp with
  | none => none
  | some timestamp =>
    if timestamp ∈ Image.freeTimestamps then none
    else if timestamp = Image.sourceTimestamp then
      if spec.gitSource?.isSome then none else some .timestampNeedsSource
    else if (Text.int64? timestamp).isSome then none
    else some .timestampInvalid

def triggersViolation? (spec : BuildSpec) : Option Violation :=
  ((spec.trigger.map (·.events)).getD []).findSome? fun event =>
    event.problem?.map (.trigger event.name)

/-- Checks the entries of the node selector in the order of their keys. -/
def nodeSelectorViolation? (spec : BuildSpec) : Option Violation :=
  spec.nodeSelector.entries.findSome? BuildController.nodeSelectorViolation?

def tolerationsViolation? (spec : BuildSpec) : Option Violation :=
  (spec.tolerations.findSome? Toleration.problem?).map .toleration

/-- Checks the name of the scheduler, which may be missing or empty. -/
def schedulerNameViolation? (spec : BuildSpec) : Option Violation :=
  match spec.schedulerName.getD "" with
  | "" => none
  | name =>
    match Label.nameProblems name.toList with
    | [] => none
    | problems => some (.schedulerName problems)

end BuildSpec

/-- Checks the name of a build, which becomes a label value. -/
def Build.nameViolation? (build : Build) : Option Violation :=
  if build.metadata.name = "" then some .nameEmpty
  else
    match Label.valueProblems build.metadata.name.toList with
    | [] => none
    | problems => some (.nameInvalid problems)

end BuildController
