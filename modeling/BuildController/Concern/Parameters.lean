import BuildController.Concern.Violation
import BuildController.Resource.Build
import BuildController.Resource.Strategy

/-! The values that a build passes to the parameters of its strategy: none of them may be one of the
controller's own, each has to be declared, and each declared parameter without a default needs a
value. -/
namespace BuildController

/-- How the names of the controller's own parameters begin. -/
def ownParamMark : String := "kiln-"

/-- The names of values that set one of the controller's own parameters. -/
def restrictedParams (values : List ParamValue) : List String :=
  (values.map (·.name)).filter (Text.beginsWith ownParamMark)

/-- The names of values for parameters that the strategy does not declare. -/
def undefinedParams (values : List ParamValue) (strategy : StrategySpec) : List String :=
  (values.map (·.name)).filter fun name => name ∉ strategy.parameters.map (·.name)

/-- The names of declared parameters with neither a default nor a value. -/
def missingParams (values : List ParamValue) (strategy : StrategySpec) : List String :=
  (strategy.parameters.filter fun p => p.default.isNone ∧ p.name ∉ values.map (·.name)).map (·.name)

def paramsViolation? (values : List ParamValue) (strategy : StrategySpec) : Option Violation :=
  if restrictedParams values ≠ [] then some (.paramsRestricted (restrictedParams values))
  else if undefinedParams values strategy ≠ [] then
    some (.paramsUndefined (undefinedParams values strategy))
  else if missingParams values strategy ≠ [] then
    some (.paramsMissing (missingParams values strategy))
  else none

end BuildController
