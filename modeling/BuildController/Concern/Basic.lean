import BuildController.Concern.Ownership
import BuildController.Concern.References
import BuildController.Concern.Spec

/-! The concerns that a build has to meet. They are checked one after the other, and the first
violation counts, so that the reason that a build gets depends on their order only. -/
namespace BuildController

inductive Concern
  | secrets
  | strategy
  | sourceUrl
  | source
  | output
  | buildName
  | env
  | ownerReferences
  | triggers
  | nodeSelector
  | tolerations
  | schedulerName
  deriving DecidableEq, Repr

namespace Concern

def tag : Concern → String
  | secrets => "secrets"
  | strategy => "strategy"
  | sourceUrl => "sourceurl"
  | source => "source"
  | output => "output"
  | buildName => "buildname"
  | env => "env"
  | ownerReferences => "ownerreferences"
  | triggers => "triggers"
  | nodeSelector => "nodeselector"
  | tolerations => "tolerations"
  | schedulerName => "schedulername"

/-- The concerns of a stored build, in the order in which they are checked. -/
def ofBuild : List Concern :=
  [ownerReferences, sourceUrl, secrets, strategy, source, buildName, env, output, triggers,
    nodeSelector, tolerations, schedulerName]

/-- The concerns of a build that a run spells out: it has no name, no runs and no triggers. -/
def ofInlineBuild : List Concern :=
  [sourceUrl, secrets, strategy, source, env, output, nodeSelector, tolerations, schedulerName]

def ofTag? (text : String) : Option Concern := ofBuild.find? fun concern => concern.tag = text

def violation? (build : Build) : Concern → Pass (Option Violation)
  | secrets => secretsViolation? build
  | strategy => strategyViolation? build
  | sourceUrl => repositoryViolation? build
  | source => pure build.spec.sourcesViolation?
  | output => pure build.spec.outputViolation?
  | buildName => pure build.nameViolation?
  | env => pure (envViolation? build.spec.env)
  | ownerReferences => ownershipViolation? build
  | triggers => pure build.spec.triggersViolation?
  | nodeSelector => pure build.spec.nodeSelectorViolation?
  | tolerations => pure build.spec.tolerationsViolation?
  | schedulerName => pure build.spec.schedulerNameViolation?

/-- Checks concerns in turn, up to the first violation. A cancelled pass checks no further one. -/
def firstViolation? (build : Build) : List Concern → Pass (Option Violation)
  | [] => pure none
  | concern :: rest => do
    Pass.checkpoint
    match ← concern.violation? build with
    | some violation => return some violation
    | none => firstViolation? build rest

end Concern

end BuildController
