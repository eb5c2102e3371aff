import BuildController.Concern.Parameters
import BuildController.Pass.Basic
import BuildController.Url.Parser

/-! Checks of what a build refers to: its repository, its secrets and its strategy. -/
namespace BuildController

/-- Checks that the repository of a build can be reached. Only builds that ask for it are checked,
and no private repository is. -/
def repositoryViolation? (build : Build) : Pass (Option Violation) :=
  if !build.metadata.annotationEnabled Build.verifyAnnotation then pure none
  else
    match build.spec.gitSource? with
    | none => pure none
    | some source =>
      if source.cloneSecret.isSome then pure none
      else
        match (Url.ofText? source.url).filter Url.isHttp with
        | none => pure (some .repositoryUrlInvalid)
        | some url => do
          return if ← Pass.probe url then none else some .repositoryUnreachable

def missingSecret? (ns : String) : Option String → Pass (Option String)
  | none => pure none
  | some secret => do
    return if ← Pass.send (.secretExists ns secret) then none else some secret

/-- Checks that the secrets of a build exist: that of its source and that of its output. -/
def secretsViolation? (build : Build) : Pass (Option Violation) := do
  let ns := build.metadata.namespaceName
  let source ← missingSecret? ns (build.spec.source.bind (·.cloneSecret))
  let output ← missingSecret? ns build.spec.output.pushSecret
  return match source, output with
    | none, none => none
    | some secret, none => some (.sourceSecretMissing secret)
    | none, some secret => some (.outputSecretMissing secret)
    | some source, some output => some (.bothSecretsMissing source output)

/-- Looks up a strategy, in the given namespace unless it belongs to the cluster. -/
def StrategyRef.lookup (ns : String) (ref : StrategyRef) : Pass (Except Violation BuildStrategy) :=
  match ref.resolvedKind with
  | .error kind => pure (.error (.strategyKindUnknown kind))
  | .ok .namespaced => do
    match ← Pass.send (.getStrategy ns ref.name) with
    | some strategy => return .ok strategy
    | none => return .error (.strategyMissing ref.name ns)
  | .ok .cluster => do
    match ← Pass.send (.getClusterStrategy ref.name) with
    | some strategy => return .ok strategy
    | none => return .error (.clusterStrategyMissing ref.name)

/-- Checks that the strategy of a build exists and gets the values it needs. -/
def strategyViolation? (build : Build) : Pass (Option Violation) := do
  match ← build.spec.strategy.lookup build.metadata.namespaceName with
  | .error violation => return some violation
  | .ok strategy => return paramsViolation? build.spec.paramValues strategy.spec

end BuildController
