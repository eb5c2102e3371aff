import BuildController.Json.Wire

/-! The reasons that the status of a build or of a build run can give. -/
namespace BuildController

inductive BuildReason
  | succeeded
  | sourceSecretNotFound
  | outputSecretNotFound
  | severalSecretsNotFound
  | strategyNotFound
  | clusterStrategyNotFound
  | unknownStrategyKind
  | ownerReferenceFailed
  | repositoryUnreachable
  | sourceNotValid
  | nameInvalid
  | envNameBlank
  | envValueAmbiguous
  | restrictedParameters
  | undefinedParameter
  | missingParameterValues
  | triggerNotValid
  | outputTimestampNotSupported
  | outputTimestampNotValid
  | nodeSelectorNotValid
  | tolerationNotValid
  | schedulerNameNotValid
  deriving DecidableEq, Repr

namespace BuildReason

def text : BuildReason → String
  | succeeded => "Succeeded"
  | sourceSecretNotFound => "SpecSourceSecretRefNotFound"
  | outputSecretNotFound => "SpecOutputSecretRefNotFound"
  | severalSecretsNotFound => "MultipleSecretRefNotFound"
  | strategyNotFound => "BuildStrategyNotFound"
  | clusterStrategyNotFound => "ClusterBuildStrategyNotFound"
  | unknownStrategyKind => "UnknownBuildStrategyKind"
  | ownerReferenceFailed => "SetOwnerReferenceFailed"
  | repositoryUnreachable => "RemoteRepositoryUnreachable"
  | sourceNotValid => "SpecSourceNotValid"
  | nameInvalid => "BuildNameInvalid"
  | envNameBlank => "SpecEnvNameCanNotBeBlank"
  | envValueAmbiguous => "SpecEnvOnlyOneOfValueOrValueFromMustBeSpecified"
  | restrictedParameters => "RestrictedParametersInUse"
  | undefinedParameter => "UndefinedParameter"
  | missingParameterValues => "MissingParameterValues"
  | triggerNotValid => "TriggerNotValid"
  | outputTimestampNotSupported => "OutputTimestampNotSupported"
  | outputTimestampNotValid => "OutputTimestampNotValid"
  | nodeSelectorNotValid => "NodeSelectorNotValid"
  | tolerationNotValid => "TolerationNotValid"
  | schedulerNameNotValid => "SchedulerNameNotValid"

def all : List BuildReason :=
  [succeeded, sourceSecretNotFound, outputSecretNotFound, severalSecretsNotFound, strategyNotFound,
    clusterStrategyNotFound, unknownStrategyKind, ownerReferenceFailed, repositoryUnreachable,
    sourceNotValid, nameInvalid, envNameBlank, envValueAmbiguous, restrictedParameters,
    undefinedParameter, missingParameterValues, triggerNotValid, outputTimestampNotSupported,
    outputTimestampNotValid, nodeSelectorNotValid, tolerationNotValid, schedulerNameNotValid]

def ofText? (s : String) : Option BuildReason := all.find? fun reason => reason.text = s

end BuildReason

instance : Wire BuildReason := Wire.named BuildReason.text BuildReason.ofText?

inductive RunReason
  | noBuild
  | ambiguousBuild
  | overrideForbidden
  | buildNotFound
  | buildNotRegistered
  | pending
  | running
  | succeeded
  | failed
  | timeout
  | canceled
  | taskRunMissing
  deriving DecidableEq, Repr

namespace RunReason

def text : RunReason → String
  | noBuild => "NoRefOrSpec"
  | ambiguousBuild => "AmbiguousBuild"
  | overrideForbidden => "BuildFieldOverrideForbidden"
  | buildNotFound => "BuildNotFound"
  | buildNotRegistered => "BuildRegistrationFailed"
  | pending => "Pending"
  | running => "Running"
  | succeeded => "Succeeded"
  | failed => "Failed"
  | timeout => "BuildRunTimeout"
  | canceled => "BuildRunCanceled"
  | taskRunMissing => "TaskRunIsMissing"

def all : List RunReason :=
  [noBuild, ambiguousBuild, overrideForbidden, buildNotFound, buildNotRegistered, pending, running,
    succeeded, failed, timeout, canceled, taskRunMissing]

def ofText? (s : String) : Option RunReason := all.find? fun reason => reason.text = s

end RunReason

instance : Wire RunReason := Wire.named RunReason.text RunReason.ofText?

end BuildController
