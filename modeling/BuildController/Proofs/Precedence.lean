import BuildController.Proofs.Merging
import BuildController.Proofs.Parameters

/-! Which of several values of a parameter counts. The gate looks at the values of build and run
merged into one list, where the last value of the run stands in for all the others. The task run
looks each parameter up again, first in the run and then in the build, and takes the first value
that it finds. Both see the same parameters; they see the same value of one unless the run gives it
several times. -/
namespace BuildController

theorem ParamValue.find?_eq_head? (values : List ParamValue) (name : String) :
    find? values name = (entriesOf ParamValue.name name values).head?.map (·.value) := by
  rw [find?, entriesOf, List.head?_filter]

theorem find?_mergeParamValues (base overrides : List ParamValue) (name : String) :
    ParamValue.find? (mergeParamValues base overrides) name =
      ((entriesOf ParamValue.name name overrides).getLast?.or
        (entriesOf ParamValue.name name base).head?).map (·.value) := by
  rw [ParamValue.find?_eq_head?, mergeParamValues, head?_entriesOf_merge]

namespace TaskRunPlan

variable {build : Build} {run : BuildRun} {strategy : StrategySpec}

theorem paramValue?_eq (name : String) :
    paramValue? build run name =
      ((entriesOf ParamValue.name name run.spec.paramValues).head?.or
        (entriesOf ParamValue.name name build.spec.paramValues).head?).map (·.value) := by
  rw [paramValue?, ParamValue.find?_eq_head?, ParamValue.find?_eq_head?, Option.map_or]

/-- The task run passes what the gate has seen exactly if the first and the last value of the run
are the same. -/
theorem paramValue?_eq_merged_iff (name : String) :
    paramValue? build run name =
        ParamValue.find? (mergeParamValues build.spec.paramValues run.spec.paramValues) name ↔
      (entriesOf ParamValue.name name run.spec.paramValues).head?.map (·.value) =
        (entriesOf ParamValue.name name run.spec.paramValues).getLast?.map (·.value) := by
  rw [paramValue?_eq, find?_mergeParamValues]
  cases entriesOf ParamValue.name name run.spec.paramValues with
  | nil => simp
  | cons first rest =>
    rw [List.head?_cons, List.getLast?_cons, Option.some_or, Option.some_or]

/-- The values for the parameters of the strategy, which follow those of the controller. -/
def passedParams (build : Build) (run : BuildRun) (strategy : StrategySpec) : List Param :=
  strategy.parameters.filterMap fun declared =>
    (paramValue? build run declared.name).map fun value => ⟨declared.name, value⟩

theorem mem_passedParams {v : Param} : v ∈ passedParams build run strategy ↔
    (∃ p ∈ strategy.parameters, p.name = v.name) ∧ paramValue? build run v.name = some v.value := by
  rw [passedParams, List.mem_filterMap]
  constructor
  · rintro ⟨p, declared, passed⟩
    obtain ⟨value, given, rfl⟩ := Option.map_eq_some_iff.mp passed
    exact ⟨⟨p, declared, rfl⟩, given⟩
  · rintro ⟨⟨p, declared, same⟩, given⟩
    refine ⟨p, declared, ?_⟩
    rw [same, given, Option.map_some]

theorem mem_names_passedParams {p : ParamSpec} (declared : p ∈ strategy.parameters) :
    p.name ∈ (passedParams build run strategy).map (·.name) ↔
      p.name ∈ (mergeParamValues build.spec.paramValues run.spec.paramValues).map (·.name) := by
  rw [← isSome_paramValue?, List.mem_map]
  constructor
  · rintro ⟨v, passed, same⟩
    rw [← same, (mem_passedParams.mp passed).2, Option.isSome_some]
  · intro given
    obtain ⟨value, given⟩ := Option.isSome_iff_exists.mp given
    exact ⟨⟨p.name, value⟩, mem_passedParams.mpr ⟨⟨p, declared, rfl⟩, given⟩, rfl⟩

/-- The gate turns down every value for a parameter of the controller. -/
theorem not_own_of_merged {name : String}
    (accepted : paramsViolation? (mergeParamValues build.spec.paramValues run.spec.paramValues)
      strategy = none)
    (merged : name ∈ (mergeParamValues build.spec.paramValues run.spec.paramValues).map (·.name)) :
    name ∉ (ownParamValues build run).map (·.name) := by
  obtain ⟨free, -, -⟩ := paramsViolation?_eq_none.mp accepted
  obtain ⟨value, given, rfl⟩ := List.mem_map.mp merged
  intro own
  have marked : ∀ name ∈ ownParams.map (·.name), Text.beginsWith ownParamMark name := by decide
  refine Cluster.restrictedParams_eq_nil.mp free value given ?_
  exact List.isPrefixOf_iff_prefix.mp (marked value.name own)

end TaskRunPlan

namespace TaskRun

/-- If the gate accepts the merged values, a task run passes values of its own and those for the
parameters of the strategy. Among the latter are exactly the parameters with a merged value, none of
them under a name of the controller, and each gets the first value of the run or else the first of
the build. This is the first merged value exactly if the run gives the parameter the same value
first and last. -/
theorem plan_param_values (settings : Settings) (taskRunName : String) {build : Build}
    {run : BuildRun} {strategy : StrategySpec}
    (accepted : paramsViolation? (mergeParamValues build.spec.paramValues run.spec.paramValues)
      strategy = none) :
    ∃ passed, (plan settings taskRunName build run strategy).spec.params =
        TaskRunPlan.ownParamValues build run ++ passed ∧
      ∀ p ∈ strategy.parameters,
        let merged := mergeParamValues build.spec.paramValues run.spec.paramValues
        let given := entriesOf ParamValue.name p.name run.spec.paramValues
        (p.name ∈ passed.map (·.name) ↔ p.name ∈ merged.map (·.name)) ∧
        (p.name ∈ merged.map (·.name) →
          p.name ∉ (TaskRunPlan.ownParamValues build run).map (·.name)) ∧
        ∀ v ∈ passed, v.name = p.name →
          some v.value = (given.head?.or
            (entriesOf ParamValue.name p.name build.spec.paramValues).head?).map (·.value) ∧
          (some v.value = ParamValue.find? merged p.name ↔
            given.head?.map (·.value) = given.getLast?.map (·.value)) := by
  refine ⟨TaskRunPlan.passedParams build run strategy, rfl, fun p declared => ?_⟩
  refine ⟨TaskRunPlan.mem_names_passedParams declared, TaskRunPlan.not_own_of_merged accepted, ?_⟩
  intro v passed same
  obtain ⟨-, value⟩ := TaskRunPlan.mem_passedParams.mp passed
  rw [same] at value
  rw [← value]
  exact ⟨TaskRunPlan.paramValue?_eq p.name, TaskRunPlan.paramValue?_eq_merged_iff p.name⟩

/-- A value of the run goes before two values of the build, in the task run as in the merged
list. -/
theorem plan_param_values_overridden :
    let build : Build :=
      { metadata := { name := "app" }
        spec := { strategy := { name := "kaniko" }, output := { image := "registry/app" }
                  paramValues := [⟨"tag", "v1"⟩, ⟨"level", "3"⟩, ⟨"tag", "v2"⟩] } }
    let run : BuildRun :=
      { metadata := { name := "run" }
        spec := { build := { name := "app" }, paramValues := [⟨"tag", "v3"⟩] } }
    let strategy : StrategySpec := { parameters := [⟨"tag", "", none⟩, ⟨"level", "", some "1"⟩] }
    let merged := mergeParamValues build.spec.paramValues run.spec.paramValues
    paramsViolation? merged strategy = none ∧ ParamValue.find? merged "tag" = some "v3" ∧
      ∃ v ∈ (plan {} "run-0a1b2" build run strategy).spec.params, v.name = "tag" ∧
        v.value = "v3" := by
  intro build run strategy merged
  have accepted : paramsViolation? merged strategy = none := by decide
  have first : ParamValue.find? merged "tag" = some "v3" := by decide
  obtain ⟨passed, params, each⟩ := plan_param_values {} "run-0a1b2" accepted
  obtain ⟨present, -, value⟩ := each ⟨"tag", "", none⟩ (by decide)
  obtain ⟨v, member, same⟩ := List.mem_map.mp (present.mpr (by decide))
  refine ⟨accepted, first, v, ?_, same, ?_⟩
  · rw [params]
    exact List.mem_append_right _ member
  · have agrees := (value v member same).2.mpr rfl
    rw [first] at agrees
    exact Option.some.inj agrees

/-- The run gives a parameter twice. The gate accepts it with the last value, and the task run
passes the first one. -/
theorem plan_param_value_differs :
    let build : Build :=
      { metadata := { name := "app" }
        spec := { strategy := { name := "kaniko" }, output := { image := "registry/app" } } }
    let run : BuildRun :=
      { metadata := { name := "run" }
        spec := { build := { name := "app" }, paramValues := [⟨"tag", "v1"⟩, ⟨"tag", "v2"⟩] } }
    let strategy : StrategySpec := { parameters := [⟨"tag", "", none⟩] }
    let merged := mergeParamValues build.spec.paramValues run.spec.paramValues
    paramsViolation? merged strategy = none ∧ ParamValue.find? merged "tag" = some "v2" ∧
      entriesOf Param.name "tag" (plan {} "run-0a1b2" build run strategy).spec.params =
        [⟨"tag", "v1"⟩] := by
  decide

end TaskRun

end BuildController
