import BuildController.Proofs.Advance
import BuildController.Proofs.Demands
import BuildController.Proofs.Merging
import BuildController.Proofs.System

/-! The parameters of a started run. The gate looks at the values of build and run together, and the
task run takes them up one declared parameter at a time. Both see the same names, so what the gate
demands of the values holds of the parameters of the task run. -/
namespace BuildController

theorem ParamValue.isSome_find? {values : List ParamValue} {name : String} :
    (find? values name).isSome ↔ name ∈ values.map (·.name) := by
  simp [find?, List.find?_isSome]

theorem paramsViolation?_eq_none {values : List ParamValue} {strategy : StrategySpec} :
    paramsViolation? values strategy = none ↔ restrictedParams values = [] ∧
      undefinedParams values strategy = [] ∧ missingParams values strategy = [] := by
  unfold paramsViolation?
  split_ifs <;> simp_all

namespace TaskRunPlan

variable {build : Build} {run : BuildRun} {strategy : StrategySpec}

/-- A value is passed for exactly the names that the gate has seen. -/
theorem isSome_paramValue? {name : String} : (paramValue? build run name).isSome ↔
    name ∈ (mergeParamValues build.spec.paramValues run.spec.paramValues).map (·.name) := by
  rw [paramValue?, Option.isSome_or, Bool.or_eq_true, ParamValue.isSome_find?,
    ParamValue.isSome_find?, or_comm]
  exact mem_map_merge.symm

theorem mem_params {v : Param} : v ∈ params build run strategy ↔
    v ∈ ownParamValues build run ∨
      ∃ p ∈ strategy.parameters, p.name = v.name ∧ paramValue? build run p.name = some v.value := by
  rw [params, List.mem_append, List.mem_filterMap]
  refine or_congr_right ⟨?_, ?_⟩
  · rintro ⟨p, declared, passed⟩
    obtain ⟨value, given, rfl⟩ := Option.map_eq_some_iff.mp passed
    exact ⟨p, declared, rfl, given⟩
  · rintro ⟨p, declared, same, given⟩
    exact ⟨p, declared, by rw [given, same]; rfl⟩

/-- The controller's own parameters are declared first, then those of the strategy. -/
theorem taskSpec_params (settings : Settings) :
    (taskSpec settings build run strategy).params = ownParams ++ strategy.parameters := by
  unfold taskSpec TaskSpec.addSources
  cases build.spec.gitSource? <;> rfl

theorem params_declared (settings : Settings) {v : Param} (passed : v ∈ params build run strategy) :
    ∃ p ∈ (taskSpec settings build run strategy).params, p.name = v.name := by
  rw [taskSpec_params]
  obtain own | ⟨p, declared, same, -⟩ := mem_params.mp passed
  · have names : (ownParamValues build run).map (·.name) = ownParams.map (·.name) := rfl
    have named : v.name ∈ ownParams.map (·.name) := names ▸ List.mem_map_of_mem own
    obtain ⟨p, declared, same⟩ := List.mem_map.mp named
    exact ⟨p, List.mem_append_left _ declared, same⟩
  · exact ⟨p, List.mem_append_right _ declared, same⟩

section Accepted

variable (accepted : paramsViolation? (mergeParamValues build.spec.paramValues
  run.spec.paramValues) strategy = none)

include accepted

theorem required_passed {p : ParamSpec} (declared : p ∈ strategy.parameters)
    (required : p.default = none) : ∃ v ∈ params build run strategy, v.name = p.name := by
  obtain ⟨-, -, complete⟩ := paramsViolation?_eq_none.mp accepted
  have seen := Cluster.missingParams_eq_nil.mp complete p declared required
  obtain ⟨value, given⟩ := Option.isSome_iff_exists.mp (isSome_paramValue?.mpr
    (List.mem_map.mpr seen))
  exact ⟨⟨p.name, value⟩, mem_params.mpr (.inr ⟨p, declared, rfl, given⟩), rfl⟩

/-- No parameter of the strategy that gets a value looks like one of the controller's own. -/
theorem own_params :
    (params build run strategy).filter (fun v => Text.beginsWith ownParamMark v.name) =
      ownParamValues build run := by
  obtain ⟨free, -, -⟩ := paramsViolation?_eq_none.mp accepted
  have own : (ownParamValues build run).filter
      (fun v => Text.beginsWith ownParamMark v.name) = ownParamValues build run := by
    refine List.filter_eq_self.mpr fun v member => ?_
    have marked : ∀ name ∈ ownParams.map (·.name), Text.beginsWith ownParamMark name := by decide
    exact marked v.name (List.mem_map_of_mem (f := (·.name)) member)
  rw [params, List.filter_append, own, List.append_right_eq_self, List.filter_eq_nil_iff]
  -- The strategy may declare such a parameter, but the gate turns down every value for it.
  intro v member marked
  obtain ⟨p, -, passed⟩ := List.mem_filterMap.mp member
  obtain ⟨value, given, rfl⟩ := Option.map_eq_some_iff.mp passed
  obtain ⟨w, seen, same⟩ := List.mem_map.mp (isSome_paramValue?.mp
    (Option.isSome_iff_exists.mpr ⟨value, given⟩))
  refine Cluster.restrictedParams_eq_nil.mp free w seen ?_
  rw [same]
  exact List.isPrefixOf_iff_prefix.mp marked

end Accepted

end TaskRunPlan

variable {hazards : Hazards} {c d : Cluster} {run : BuildRun}

namespace Cluster

/-- The gate admits the run, and the task run is one that is planned for it. -/
def Plans (settings : Settings) (c : Cluster) (run : BuildRun) (taskRun : TaskRun) : Prop :=
  ∃ build strategy name, c.Judges run (.admits (build, strategy)) ∧
    taskRun = TaskRun.plan settings name build run strategy.spec

/-- A task run that was not there before is the planned one, under a free name of the run. -/
theorem Ensures.planned {build : Build} {strategy : BuildStrategy}
    (ensures : c.Ensures settings run looked build strategy d)
    (fresh : c.taskRuns.get? k = none) (created : d.taskRuns.get? k = some t) :
    c.taskRuns.get? ⟨run.metadata.namespaceName, looked⟩ = none ∧
      ∃ name, run.Names name ∧ k = ⟨run.metadata.namespaceName, name⟩ ∧
        t = TaskRun.plan settings name build run strategy.spec := by
  cases ensures with
  | found =>
    rw [fresh] at created
    cases created
  | created absent names free =>
    rw [withTaskRun, OrderedMap.get?_insert] at created
    split at created
    · next here =>
      cases created
      exact ⟨absent, _, names, here, rfl⟩
    · rw [fresh] at created
      cases created

theorem Decides.prepares (decides : c.Decides settings run next d)
    (fresh : c.taskRuns.get? k = none) (created : d.taskRuns.get? k = some t) :
    ∃ name, c.Prepares settings run name d := by
  cases decides with
  | started prepares => exact ⟨_, prepares⟩
  | failed | lost | observed =>
    rw [fresh] at created
    cases created

/-- A pass that leaves a new task run behind was over a run that the gate admitted. -/
theorem Advances.prepares (advances : c.Advances hazards settings run r d)
    (fresh : c.taskRuns.get? k = none) (created : d.taskRuns.get? k = some t) :
    run.status.isDone = false ∧ ∃ name prepared, c.Prepares settings run name prepared ∧
      prepared.taskRuns.get? k = some t := by
  cases advances with
  | written notDone decides =>
    obtain ⟨name, prepares⟩ := decides.prepares fresh created
    exact ⟨notDone, name, _, prepares, created⟩
  | lost notDone _ _ decides =>
    obtain ⟨name, prepares⟩ := decides.prepares fresh created
    exact ⟨notDone, name, _, prepares, created⟩
  | aborted notDone _ prepares => exact ⟨notDone, _, _, prepares, created⟩
  | finished | deferred | interrupted =>
    rw [fresh] at created
    cases created

theorem Advances.planned (advances : c.Advances hazards settings run r d)
    (fresh : c.taskRuns.get? k = none) (created : d.taskRuns.get? k = some t) :
    c.Plans settings run t := by
  obtain ⟨-, _, _, ⟨-, build, strategy, admits, -, ensures⟩, there⟩ :=
    advances.prepares fresh created
  obtain ⟨-, name, -, -, rfl⟩ := ensures.planned fresh there
  exact ⟨build, strategy, name, judges_iff.mpr admits, rfl⟩

end Cluster

namespace BuildRun

/-- Whatever comes between a pass and its control plane, a task run that it creates passes the four
parameters of the controller with the values of build and run and nothing else in their place, it
passes all parameters of the strategy that need a value, and it declares all parameters that it
passes. -/
theorem started_params_sound (keyed : c.Keyed) (key : ObjectKey)
    (ended : (advance settings key.ns key.name).Ends (Cluster.Meets hazards) c r d)
    (fresh : c.taskRuns.get? k = none) (created : d.taskRuns.get? k = some t) :
    ∃ run build strategy, c.runs.get? key = some run ∧ c.Offers run build ∧
      c.Provides run.metadata.namespaceName build.spec.strategy strategy ∧
      (let output := run.spec.output.getD build.spec.output
       t.spec.params.filter (fun v => Text.beginsWith "kiln-" v.name) =
        [⟨"kiln-output-image", output.image⟩, ⟨"kiln-source-root", "/workspace/source"⟩,
          ⟨"kiln-source-context", TaskRunPlan.sourceContext build.spec⟩,
          ⟨"kiln-output-timestamp", output.timestamp.getD ""⟩]) ∧
      (∀ p ∈ strategy.spec.parameters, p.default = none →
        ∃ v ∈ t.spec.params, v.name = p.name) ∧
      ∀ v ∈ t.spec.params, ∃ p ∈ t.spec.taskSpec.params, p.name = v.name := by
  cases stored : c.runs.get? key with
  | none =>
    rw [advance_missing stored ended, fresh] at created
    cases created
  | some run =>
    cases keyed key run stored
    obtain ⟨build, strategy, name, judged, rfl⟩ := (advance_only stored ended).planned fresh created
    cases judged with
    | admitted plain offered env found accepted =>
      refine ⟨run, build, strategy, rfl, offered, Cluster.provides_iff.mpr found, ?_, ?_, ?_⟩
      · exact TaskRunPlan.own_params accepted
      · exact fun p declared required => TaskRunPlan.required_passed accepted declared required
      · exact fun v passed => TaskRunPlan.params_declared settings passed

/-- A strategy may declare a parameter of the controller, but cannot change its value. -/
theorem started_params_sound_declared :
    let run : BuildRun :=
      { metadata := { name := "run", uid := "0a1b2c" }, spec := { build := { name := "app" } } }
    let build : Build :=
      { metadata := { name := "app" }
        spec := { strategy := { name := "kaniko" }, output := { image := "registry/app" }
                  paramValues := [⟨"tag", "v2"⟩] }
        status := { registered := some .true } }
    let strategy : BuildStrategy :=
      { metadata := { name := "kaniko" }
        spec := { parameters := [⟨"tag", "", none⟩, ⟨"kiln-output-image", "", some "other"⟩] } }
    let c := (((Cluster.put {} (.build build)).put (.strategy strategy)).put (.run run))
    ∃ d t, (advance {} "" "run").Ends (Cluster.Meets .all) c (.ok ()) d ∧
      d.taskRuns.get? ⟨"", "run-0a1b2"⟩ = some t ∧
      t.spec.params.filter (fun v => Text.beginsWith "kiln-" v.name) =
        [⟨"kiln-output-image", "registry/app"⟩, ⟨"kiln-source-root", "/workspace/source"⟩,
          ⟨"kiln-source-context", "/workspace/source"⟩, ⟨"kiln-output-timestamp", ""⟩] := by
  intro run build strategy c
  have keyed : c.Keyed := Cluster.keyed_put (Cluster.keyed_put (Cluster.keyed_put
    Cluster.keyed_empty _) _) _
  have stored : c.runs.get? run.metadata.key = some run := OrderedMap.get?_insert_self _ _ _
  have suffix : TaskRunPlan.nameSuffix? run.metadata.uid = some "0a1b2" := by decide
  have names : run.Names "run-0a1b2" := .of_suffix suffix
  let t := TaskRun.plan {} "run-0a1b2" build run strategy.spec
  have prepares : c.Prepares {} run "run-0a1b2" (c.withTaskRun t) :=
    ⟨rfl, build, strategy, rfl, names, .created rfl names rfl⟩
  have ended : (advance {} "" "run").Ends (Cluster.Meets .all) c (.ok ()) _ :=
    ends_advance_written stored rfl (.started prepares default)
  have created : (c.withTaskRun t).taskRuns.get? ⟨"", "run-0a1b2"⟩ = some t :=
    OrderedMap.get?_insert_self _ _ _
  refine ⟨_, t, ended, created, ?_⟩
  obtain ⟨found, offered, _, same, offers, -, own, -, -⟩ :=
    started_params_sound keyed ⟨"", "run"⟩ ended rfl created
  cases stored.symm.trans same
  cases offers with
  | registered named kept _ =>
    cases named
    cases (OrderedMap.get?_insert_self _ _ _).symm.trans kept
    exact own
  | inline spelled => cases spelled

end BuildRun

end BuildController
