import BuildController.Label
import BuildController.Resource.Reason
import BuildController.Text.Quoted

/-! What can be wrong with a build. A violation is a cause; the reason and the message that end up
in the status of the build follow from it. -/
namespace BuildController

inductive SourceProblem
  | nameEmpty
  | nameReserved (name : String)
  | nameRepeated (name : String)
  | urlEmpty (name : String)
  | urlInvalid (name url : String)
  deriving DecidableEq, Repr

def SourceProblem.message : SourceProblem → String
  | nameEmpty => "source name must not be empty"
  | nameReserved name => "source name " ++ name ++ " is reserved for the git source"
  | nameRepeated name => "source name " ++ name ++ " is used more than once"
  | urlEmpty name => "source " ++ name ++ " must specify an url"
  | urlInvalid name url => "source " ++ name ++ " has an invalid url " ++ url

inductive TriggerProblem
  | eventsMissing
  | imageNamesMissing
  | objectsMissing
  | objectStatusMissing
  | objectsNotSelected
  | typeUnknown (type : String)
  deriving DecidableEq, Repr

def TriggerProblem.message : TriggerProblem → String
  | eventsMissing => "missing GitHub events"
  | imageNamesMissing => "missing image names"
  | objectsMissing => "missing object reference"
  | objectStatusMissing => "missing object reference status"
  | objectsNotSelected => "object reference must specify a name or a selector"
  | typeUnknown type => "unknown trigger type " ++ Text.quoted type

def Label.joined (messages : List String) : String := ", ".intercalate messages

inductive TolerationProblem
  | key (problems : List Label.NameProblem)
  | valueNotEmpty
  | operatorMissing
  | operatorUnknown (operator : String)
  | value (problems : List Label.ValueProblem)
  | effectUnsupported (effect : String)
  deriving DecidableEq, Repr

def TolerationProblem.message : TolerationProblem → String
  | key problems =>
    "Toleration key not valid: " ++ Label.joined (problems.map Label.NameProblem.message)
  | valueNotEmpty => "Toleration value must be empty when the operator is Exists"
  | operatorMissing => "Toleration operator missing. Must be one of: 'Exists', 'Equal'"
  | operatorUnknown operator =>
    "Toleration operator not valid. Must be one of: 'Exists', 'Equal', got "
      ++ Text.quoted operator
  | value problems =>
    "Toleration value not valid: " ++ Label.joined (problems.map Label.ValueProblem.message)
  | effectUnsupported effect =>
    "Only the 'NoSchedule' toleration effect is supported, got " ++ Text.quoted effect

inductive Violation
  | controlledElsewhere (run kind owner : String)
  | repositoryUrlInvalid
  | repositoryUnreachable
  | sourceSecretMissing (secret : String)
  | outputSecretMissing (secret : String)
  | bothSecretsMissing (source output : String)
  | strategyKindUnknown (kind : String)
  | strategyMissing (name ns : String)
  | clusterStrategyMissing (name : String)
  | paramsRestricted (names : List String)
  | paramsUndefined (names : List String)
  | paramsMissing (names : List String)
  | source (problem : SourceProblem)
  | nameEmpty
  | nameInvalid (problems : List Label.ValueProblem)
  | envNameBlank
  | envValueAmbiguous
  | timestampNeedsSource
  | timestampInvalid
  | trigger (event : String) (problem : TriggerProblem)
  | nodeSelectorKey (problems : List Label.NameProblem)
  | nodeSelectorValue (problems : List Label.ValueProblem)
  | toleration (problem : TolerationProblem)
  | schedulerName (problems : List Label.NameProblem)
  deriving DecidableEq, Repr

namespace Violation

def reason : Violation → BuildReason
  | controlledElsewhere .. => .ownerReferenceFailed
  | repositoryUrlInvalid | repositoryUnreachable => .repositoryUnreachable
  | sourceSecretMissing _ => .sourceSecretNotFound
  | outputSecretMissing _ => .outputSecretNotFound
  | bothSecretsMissing .. => .severalSecretsNotFound
  | strategyKindUnknown _ => .unknownStrategyKind
  | strategyMissing .. => .strategyNotFound
  | clusterStrategyMissing _ => .clusterStrategyNotFound
  | paramsRestricted _ => .restrictedParameters
  | paramsUndefined _ => .undefinedParameter
  | paramsMissing _ => .missingParameterValues
  | source _ => .sourceNotValid
  | nameEmpty | nameInvalid _ => .nameInvalid
  | envNameBlank => .envNameBlank
  | envValueAmbiguous => .envValueAmbiguous
  | timestampNeedsSource => .outputTimestampNotSupported
  | timestampInvalid => .outputTimestampNotValid
  | trigger .. => .triggerNotValid
  | nodeSelectorKey _ | nodeSelectorValue _ => .nodeSelectorNotValid
  | toleration _ => .tolerationNotValid
  | schedulerName _ => .schedulerNameNotValid

def message : Violation → String
  | controlledElsewhere run kind owner =>
    "unexpected error when trying to set the ownerreference: BuildRun " ++ run
      ++ " is already controlled by " ++ kind ++ " " ++ owner
  | repositoryUrlInvalid => "invalid source url"
  | repositoryUnreachable => "remote repository unreachable"
  | sourceSecretMissing secret | outputSecretMissing secret =>
    "referenced secret " ++ secret ++ " not found"
  | bothSecretsMissing one other =>
    "missing secrets are " ++ if other < one then other ++ "," ++ one else one ++ "," ++ other
  | strategyKindUnknown kind =>
    "unknown strategy kind " ++ kind
      ++ " used, must be one of BuildStrategy, ClusterBuildStrategy"
  | strategyMissing name ns =>
    "buildStrategy " ++ name ++ " does not exist in namespace " ++ ns
  | clusterStrategyMissing name => "clusterBuildStrategy " ++ name ++ " does not exist"
  | paramsRestricted names =>
    "The following parameters are restricted and cannot be set: " ++ ", ".intercalate names
  | paramsUndefined names =>
    "The following parameters are not defined in the build strategy: " ++ ", ".intercalate names
  | paramsMissing names =>
    "The following parameters are required but no value has been provided: "
      ++ ", ".intercalate names
  | source problem => problem.message
  | nameEmpty => "must not be empty"
  | nameInvalid problems => Label.joined (problems.map Label.ValueProblem.message)
  | envNameBlank => "name for environment variable must not be blank"
  | envValueAmbiguous => "only one of value or valueFrom must be specified"
  | timestampNeedsSource =>
    "cannot use SourceTimestamp output image setting with an empty build source"
  | timestampInvalid =>
    "output timestamp value is invalid, must be Zero, SourceTimestamp, BuildTimestamp, or number"
  | trigger event problem => event ++ ": " ++ problem.message
  | nodeSelectorKey problems =>
    "Node selector key not valid: " ++ Label.joined (problems.map Label.NameProblem.message)
  | nodeSelectorValue problems =>
    "Node selector value not valid: " ++ Label.joined (problems.map Label.ValueProblem.message)
  | toleration problem => problem.message
  | schedulerName problems => Label.joined (problems.map Label.NameProblem.message)

/-- Reason and message in one line. -/
def summary (v : Violation) : String := v.reason.text ++ ": " ++ v.message

end Violation

end BuildController
