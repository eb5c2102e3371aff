import BuildController.Concern.Violation
import BuildController.Pass.Basic

/-! Ownership of runs. A build that is to take its runs along when it is deleted has to own them;
one that is to leave them behind must not. A build that says neither leaves its runs alone. -/
namespace BuildController

def Build.ownerReference (build : Build) : OwnerReference :=
  { apiVersion := apiVersion, kind := Build.kind, name := build.metadata.name,
    uid := build.metadata.uid, controller := some true }

def OwnerReference.namesBuild (build : Build) (r : OwnerReference) : Bool :=
  r.kind = Build.kind && r.name = build.metadata.name

/-- What has to be done with the owner references of a run. -/
inductive Adjustment
  | keep
  | replace (references : List OwnerReference)
  | blocked (controller : OwnerReference)
  deriving DecidableEq

/-- What a build that retains its runs, or not, has to do with the references of one. -/
def adjustment (build : Build) (retain : Bool) (references : List OwnerReference) : Adjustment :=
  if references.any (OwnerReference.namesBuild build) = retain then .keep
  else if retain then
    match references.find? fun r => r.controller = some true with
    | some controller => .blocked controller
    | none => .replace (references ++ [build.ownerReference])
  else .replace (references.filter fun r => !r.namesBuild build)

def BuildRun.withOwners (run : BuildRun) (references : List OwnerReference) : BuildRun :=
  { run with metadata := { run.metadata with ownerReferences := references } }

/-- Adjusts runs in turn, up to the first that something else controls. -/
def adjustRuns (build : Build) (retain : Bool) : List BuildRun → Pass (Option Violation)
  | [] => pure none
  | run :: rest =>
    match adjustment build retain run.metadata.ownerReferences with
    | .keep => adjustRuns build retain rest
    | .blocked controller =>
      pure (some (.controlledElsewhere run.metadata.name controller.kind controller.name))
    | .replace references => do
      Pass.send (.updateRun (run.withOwners references))
      adjustRuns build retain rest

def ownershipViolation? (build : Build) : Pass (Option Violation) :=
  match build.spec.retention.bind (·.atBuildDeletion) with
  | none => pure none
  | some retain => do
    adjustRuns build retain
      (← Pass.send (.listRunsOf build.metadata.namespaceName build.metadata.name))

end BuildController
