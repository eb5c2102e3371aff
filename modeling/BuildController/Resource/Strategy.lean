import BuildController.Resource.Metadata
import BuildController.Resource.Task

/-! Build strategies: steps that turn a source into an image, and the parameters they take. -/
namespace BuildController

structure StrategySpec where
  steps : List Step := []
  parameters : List ParamSpec := []
  deriving DecidableEq

instance : Wire StrategySpec :=
  Fields.wire (.cons (.withDefault "steps" []) <| .cons (.list "parameters") .nil)
    (fun s => (s.steps, s.parameters, ())) (fun (steps, parameters, ()) => { steps, parameters })

structure BuildStrategy where
  metadata : Metadata
  spec : StrategySpec
  deriving DecidableEq

instance : Wire BuildStrategy :=
  Fields.wire (.cons (.required "metadata") <| .cons (.required "spec") .nil)
    (fun b => (b.metadata, b.spec, ())) (fun (metadata, spec, ()) => { metadata, spec })

end BuildController
