import BuildController.Concern.Violation
import BuildController.Resource.BuildRun

/-! Why a build run fails before a step of it was executed. -/
namespace BuildController

/-- Fields of a run that do not go together. A run names a build or spells one out, and one that
spells it out has nothing to override. -/
inductive FieldConflict
  | noBuild
  | ambiguousBuild
  | output
  | paramValues
  | env
  | timeout
  | trigger
  deriving DecidableEq, Repr

namespace FieldConflict

def reason : FieldConflict → RunReason
  | noBuild => .noBuild
  | ambiguousBuild => .ambiguousBuild
  | output | paramValues | env | timeout | trigger => .overrideForbidden

def message : FieldConflict → String
  | noBuild =>
    "no build referenced or specified, either 'build.name' or 'build.spec' has to be set"
  | ambiguousBuild => "fields 'build.name' and 'build.spec' are mutually exclusive"
  | output => "cannot use 'output' override and 'build.spec' simultaneously"
  | paramValues => "cannot use 'paramValues' override and 'build.spec' simultaneously"
  | env => "cannot use 'env' override and 'build.spec' simultaneously"
  | timeout => "cannot use 'timeout' override and 'build.spec' simultaneously"
  | trigger => "cannot use 'triggers' override in the 'BuildRun', only allowed in the 'Build'"

end FieldConflict

def RunSpec.conflict? (spec : RunSpec) : Option FieldConflict :=
  match spec.build.name, spec.build.spec with
  | none, none => some .noBuild
  | some _, none => none
  | some _, some _ => some .ambiguousBuild
  | none, some inline =>
    if spec.output.isSome then some .output
    else if !spec.paramValues.isEmpty then some .paramValues
    else if !spec.env.isEmpty then some .env
    else if spec.timeout.isSome then some .timeout
    else if inline.trigger.isSome then some .trigger
    else none

/-- Why a run fails before a step of it was executed, or after its task run got lost. -/
inductive RunFailure
  | conflict (conflict : FieldConflict)
  | buildNotFound (build : String)
  | buildNotRegistered (build : String) (reason : Option BuildReason)
  | violation (violation : Violation)
  | taskRunMissing (taskRun : String)
  deriving DecidableEq, Repr

namespace RunFailure

def reason : RunFailure → String
  | conflict c => c.reason.text
  | buildNotFound _ => RunReason.buildNotFound.text
  | buildNotRegistered .. => RunReason.buildNotRegistered.text
  | violation v => v.reason.text
  | taskRunMissing _ => RunReason.taskRunMissing.text

def message : RunFailure → String
  | conflict c => c.message
  | buildNotFound build => "build.kiln.dev \"" ++ build ++ "\" not found"
  | buildNotRegistered build reason =>
    "the Build is not registered correctly, build: " ++ build
      ++ ", registered status: False, reason: " ++ (reason.map BuildReason.text).getD ""
  | violation v => v.message
  | taskRunMissing taskRun => "taskRun " ++ taskRun ++ " is missing"

end RunFailure

def BuildRun.failed (run : BuildRun) (now : Readings) (failure : RunFailure) : BuildRun :=
  { run with
    status :=
      { run.status.setSucceeded now.condition .false failure.reason failure.message with
        completionTime := some now.time } }

end BuildController
