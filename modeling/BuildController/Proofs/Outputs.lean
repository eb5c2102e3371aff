import BuildController.Proofs.Merging
import BuildController.Proofs.Parameters
import BuildController.Proofs.Provenance

/-! The output image of a started run. Before a run starts, the image of its build was checked for
its timestamp policy and its push secret, whether the build is stored or spelled out. An image that
the run sets in place of it is looked at by no check and goes into the task run as it is. -/
namespace BuildController

/-- Registered are only builds that the checks of output image and secrets accept. -/
def Cluster.Vets (c : Cluster) : Prop :=
  ∀ key build, c.builds.get? key = some build → build.status.registered = some .true →
    c.Accepts .output build ∧ c.Accepts .secrets build

/-- The image can be made from the specification in the namespace. -/
structure Cluster.Suits (c : Cluster) (ns : String) (spec : BuildSpec) (output : Image) : Prop where
  timestamp : output.timestamp.getD "" ∈ ["", "Zero", "BuildTimestamp"] ∨
    (∃ seconds, Text.int64? (output.timestamp.getD "") = some seconds) ∨
    output.timestamp = some "SourceTimestamp" ∧ spec.HasGitSource
  secret : ∀ name, output.pushSecret = some name → c.secrets.contains ⟨ns, name⟩ = true

/-- The task run makes and pushes the image: it passes name and timestamp policy, and the steps of
the strategy have the push secret mounted if there is one. -/
structure TaskRun.Pushes (t : TaskRun) (strategy : StrategySpec) (output : Image) : Prop where
  image : entriesOf Param.name "kiln-output-image" t.spec.params =
    [⟨"kiln-output-image", output.image⟩]
  timestamp : entriesOf Param.name "kiln-output-timestamp" t.spec.params =
    [⟨"kiln-output-timestamp", output.timestamp.getD ""⟩]
  volume : entriesOf Volume.name "kiln-push-secret" t.spec.taskSpec.volumes =
    match output.pushSecret with
    | some secret => [⟨"kiln-push-secret", some secret⟩]
    | none => []
  steps : ∃ fetched made, t.spec.taskSpec.steps = fetched ++ made ∧
    strategy.steps.Forall₂ (fun step ran => ran.volumeMounts = step.volumeMounts ++
      if output.pushSecret.isSome then
        [⟨"kiln-push-secret", "/workspace/kiln-push-secret", true⟩]
      else []) made

/-- The run with another image to make. -/
def BuildRun.overriding (run : BuildRun) (output : Image) : BuildRun :=
  { run with spec := { run.spec with output := some output } }

/-- The volume of a clone secret is never that of a push secret. -/
theorem SourceSteps.secretVolume_ne (secret : String) :
    secretVolume secret ≠ TaskRunPlan.pushSecretVolume := by
  intro same
  have letters := congrArg (fun name => name.toList.take 6) same
  revert letters
  simp [secretVolume, TaskRunPlan.pushSecretVolume]

theorem TaskSpec.entriesOf_volumes_addSources (settings : Settings) (spec : BuildSpec)
    (task : TaskSpec) :
    entriesOf Volume.name TaskRunPlan.pushSecretVolume (task.addSources settings spec).volumes =
      entriesOf Volume.name TaskRunPlan.pushSecretVolume task.volumes := by
  unfold TaskSpec.addSources
  cases spec.gitSource? with
  | none => rfl
  | some source =>
    simp only [SourceSteps.addGit, SourceSteps.addSecretVolume]
    split
    · rfl
    · split
      · rfl
      · simp [entriesOf, SourceSteps.secretVolume_ne]

namespace TaskRunPlan

variable {build : Build} {run : BuildRun} {strategy : StrategySpec}

theorem entriesOf_own (accepted : paramsViolation? (mergeParamValues build.spec.paramValues
      run.spec.paramValues) strategy = none)
    (marked : Text.beginsWith ownParamMark name = true) :
    entriesOf Param.name name (params build run strategy) =
      entriesOf Param.name name (ownParamValues build run) := by
  rw [← own_params accepted, entriesOf, entriesOf, List.filter_filter]
  refine List.filter_congr fun v _ => ?_
  by_cases same : v.name = name
  · simp [same, marked]
  · simp [same]

theorem pushes_plan (settings : Settings) (name : String)
    (accepted : paramsViolation? (mergeParamValues build.spec.paramValues run.spec.paramValues)
      strategy = none) :
    (TaskRun.plan settings name build run strategy).Pushes strategy (outputImage build run) where
  image := (entriesOf_own accepted (by decide)).trans rfl
  timestamp := (entriesOf_own accepted (by decide)).trans rfl
  volume := by
    have volumes : (TaskRun.plan settings name build run strategy).spec.taskSpec.volumes =
        (TaskSpec.addSources settings build.spec
          { params := ownParams ++ strategy.parameters, results := ownResults }).volumes ++
            pushVolumes (outputImage build run).pushSecret := rfl
    have fetched := TaskSpec.entriesOf_volumes_addSources settings build.spec
      { params := ownParams ++ strategy.parameters, results := ownResults }
    rw [volumes, entriesOf, List.filter_append]
    change entriesOf Volume.name pushSecretVolume _ ++ _ = _
    rw [fetched]
    cases (outputImage build run).pushSecret <;> rfl
  steps := by
    obtain ⟨fetched, steps⟩ := taskSpec_steps settings build run strategy
    refine ⟨fetched, _, steps, ?_⟩
    rw [List.forall₂_map_right_iff]
    exact List.forall₂_same.mpr fun _ _ => rfl

end TaskRunPlan

namespace Cluster

variable {c : Cluster} {build : Build} {run : BuildRun}

/-- What the checks of output image and secrets accept can be made. -/
theorem suits_of_verdicts (output : c.verdict build .output = none)
    (secrets : c.verdict build .secrets = none) :
    c.Suits build.metadata.namespaceName build.spec build.spec.output where
  timestamp := by
    have holds := holds_iff.mpr output
    have supported : build.spec.output.timestamp = some "SourceTimestamp" →
        build.spec.HasGitSource := holds _ (.head _)
    have valid : ∀ timestamp, build.spec.output.timestamp = some timestamp →
        timestamp ∈ ["", "Zero", "BuildTimestamp", "SourceTimestamp"] ∨
          ∃ seconds, Text.int64? timestamp = some seconds := holds _ (.tail _ (.head _))
    cases given : build.spec.output.timestamp with
    | none => exact .inl List.mem_cons_self
    | some timestamp =>
      rw [Option.getD_some]
      rcases valid timestamp given with known | number
      · by_cases source : timestamp = "SourceTimestamp"
        · cases source
          exact .inr (.inr ⟨rfl, supported given⟩)
        · exact .inl (by simpa [source] using known)
      · exact .inr (.inl number)
  secret := holds_iff.mpr secrets _ (.tail _ (.tail _ (.head _)))

theorem vets_iff : c.Vets ↔ ∀ key build, c.builds.get? key = some build →
    build.status.registered = some .true →
      c.verdict build .output = none ∧ c.verdict build .secrets = none := by
  have readers : Concern.output ≠ .ownerReferences ∧ Concern.secrets ≠ .ownerReferences := by decide
  simp only [Vets, accepts_iff readers.1, accepts_iff readers.2]

/-- In a control plane that vets its builds, the gate offers only such whose image can be made. -/
theorem Vets.suits (vets : c.Vets) (filed : c.Filed) (offered : c.Offers run build) :
    c.Suits run.metadata.namespaceName build.spec build.spec.output := by
  cases offered with
  | @registered name _ named stored registered =>
    obtain ⟨output, secrets⟩ := vets_iff.mp vets _ build stored registered
    have ns : build.metadata.namespaceName = run.metadata.namespaceName :=
      congrArg ObjectKey.ns (filed.builds _ build stored)
    rw [← ns]
    exact suits_of_verdicts output secrets
  | inline spelled accepted =>
    exact suits_of_verdicts (accepted .output (by decide)) (accepted .secrets (by decide))

/-- A run that spells out its build sets no image. -/
theorem named_of_overriding (plain : run.spec.conflict? = none)
    (overrides : run.spec.output = some output) (offered : c.Offers run build) :
    ∃ name, run.spec.build = ⟨some name, none⟩ ∧
      c.builds.get? ⟨run.metadata.namespaceName, name⟩ = some build ∧
      build.status.registered = some .true := by
  cases offered with
  | registered named stored registered => exact ⟨_, named, stored, registered⟩
  | inline spelled =>
    unfold RunSpec.conflict? at plain
    simp [spelled, overrides] at plain

/-- The gate looks at no image that a run sets, so it would have admitted any other one. -/
theorem Judges.overriding {strategy : BuildStrategy}
    (judged : c.Judges run (.admits (build, strategy))) (overrides : run.spec.output = some output)
    (other : Image) :
    (c.withRun (run.overriding other)).Judges (run.overriding other)
      (.admits (build, strategy)) := by
  cases judged with
  | admitted plain offered env found params =>
    obtain ⟨name, named, stored, registered⟩ := named_of_overriding plain overrides offered
    have refers : (run.overriding other).spec.build = ⟨some name, none⟩ := named
    refine .admitted ?_ (.registered named stored registered) env found params
    rw [RunSpec.conflict?, refers]

end Cluster

variable {hazards : Hazards} {c d : Cluster} {run : BuildRun}

namespace BuildRun

/-- With any other image in place of the one that it sets, the run gets a task run as well. -/
theorem overriding_started {build : Build} {strategy : BuildStrategy}
    (notDone : run.status.isDone = false) (unstarted : run.status.taskRunName = none)
    (judged : c.Judges run (.admits (build, strategy))) (overrides : run.spec.output = some output)
    (names : run.Names looked)
    (absent : c.taskRuns.get? ⟨run.metadata.namespaceName, looked⟩ = none)
    (fresh : run.Names name) (free : c.taskRuns.get? ⟨run.metadata.namespaceName, name⟩ = none)
    (other : Image) :
    ∃ after planned, (advance settings run.metadata.namespaceName run.metadata.name).Ends
        (Cluster.Meets .calm) (c.withRun (run.overriding other)) (.ok ()) after ∧
      after.taskRuns.get? ⟨run.metadata.namespaceName, name⟩ = some planned ∧
      planned.Pushes strategy.spec other := by
  let ran := run.overriding other
  have judged' : (c.withRun ran).Judges ran _ := judged.overriding overrides other
  have stored : (c.withRun ran).runs.get? ran.metadata.key = some ran :=
    OrderedMap.get?_insert_self _ _ _
  have ended : (advance settings ran.metadata.namespaceName ran.metadata.name).Ends
      (Cluster.Meets .calm) (c.withRun ran) (.ok ()) _ :=
    ends_advance_created stored notDone unstarted (Cluster.judges_iff.mp judged') names absent fresh
      free
  refine ⟨_, _, ended, OrderedMap.get?_insert_self _ _ _, ?_⟩
  cases judged' with
  | admitted _ _ _ _ accepted => exact TaskRunPlan.pushes_plan settings name accepted

/-- In a control plane that vets its builds, a pass over a run that creates a task run lets it make
the image that the run sets, or else that of the build. The image of the build can be made, because
the build was checked. That of a run need not be: the run would have got a task run with any other
one, too. -/
theorem started_outputs (filed : c.Filed) (vets : c.Vets) (key : ObjectKey)
    (ended : (advance settings key.ns key.name).Ends (Cluster.Meets hazards) c r d)
    (fresh : c.taskRuns.get? k = none) (created : d.taskRuns.get? k = some t) :
    ∃ run build strategy, c.runs.get? key = some run ∧ c.Offers run build ∧
      c.Provides run.metadata.namespaceName build.spec.strategy strategy ∧
      t.Pushes strategy.spec (run.spec.output.getD build.spec.output) ∧
      c.Suits run.metadata.namespaceName build.spec build.spec.output ∧
      (run.spec.output.isSome → ∀ other, ∃ after planned,
        (advance settings key.ns key.name).Ends (Cluster.Meets .calm)
          (c.withRun (run.overriding other)) (.ok ()) after ∧
        after.taskRuns.get? k = some planned ∧ planned.Pushes strategy.spec other) := by
  cases stored : c.runs.get? key with
  | none =>
    rw [advance_missing stored ended, fresh] at created
    cases created
  | some run =>
    cases filed.runs key run stored
    obtain ⟨notDone, looked, prepared, ⟨unstarted, build, strategy, admits, names, ensures⟩,
      there⟩ := (advance_only stored ended).prepares fresh created
    obtain ⟨absent, name, fresh', rfl, rfl⟩ := ensures.planned fresh there
    have judged := Cluster.judges_iff.mpr admits
    cases judged with
    | admitted plain offered env found accepted =>
      refine ⟨run, build, strategy, rfl, offered, Cluster.provides_iff.mpr found,
        TaskRunPlan.pushes_plan settings name accepted, vets.suits filed offered, ?_⟩
      intro overrides other
      obtain ⟨output, overrides⟩ := Option.isSome_iff_exists.mp overrides
      exact overriding_started notDone unstarted (Cluster.judges_iff.mpr admits) overrides names
        absent fresh' fresh other

/-- A run that sets no image makes that of its build. -/
theorem started_outputs_checked :
    let run : BuildRun :=
      { metadata := { name := "run", uid := "0a1b2c" }, spec := { build := { name := "app" } } }
    let output : Image :=
      { image := "registry/app", pushSecret := some "registry", timestamp := some "Zero" }
    let build : Build :=
      { metadata := { name := "app" }, spec := { strategy := { name := "kaniko" }, output }
        status := { registered := some .true } }
    let strategy : BuildStrategy :=
      { metadata := { name := "kaniko" }
        spec := { steps := [{ name := "build", image := "kaniko" }] } }
    let c := (((Cluster.put {} (.build build)).put (.strategy strategy)).put (.run run)).put
      (.secret ⟨"", "registry"⟩)
    ∃ d t, (advance {} "" "run").Ends (Cluster.Meets .all) c (.ok ()) d ∧
      d.taskRuns.get? ⟨"", "run-0a1b2"⟩ = some t ∧ t.Pushes strategy.spec output ∧
      c.Suits "" build.spec output := by
  intro run output build strategy c
  have filed : c.Filed := (((Cluster.filed_empty.put (.build build)).put (.strategy strategy)).put
    (.run run)).put (.secret ⟨"", "registry"⟩)
  have vets : c.Vets := by
    refine Cluster.vets_iff.mpr fun key other stored _ => ?_
    cases OrderedMap.eq_of_get?_insert_empty stored
    decide
  have stored : c.runs.get? run.metadata.key = some run := OrderedMap.get?_insert_self _ _ _
  have suffix : TaskRunPlan.nameSuffix? run.metadata.uid = some "0a1b2" := by decide
  have names : run.Names "run-0a1b2" := .of_suffix suffix
  have ended : (advance {} "" "run").Ends (Cluster.Meets .all) c (.ok ()) _ :=
    ends_advance_created stored rfl rfl rfl names rfl names rfl
  let t := TaskRun.plan {} "run-0a1b2" build run strategy.spec
  have created : (c.withTaskRun t).taskRuns.get? ⟨"", "run-0a1b2"⟩ = some t :=
    OrderedMap.get?_insert_self _ _ _
  refine ⟨_, t, ended, created, ?_⟩
  obtain ⟨found, offered, provided, same, offers, provides, pushes, suits, -⟩ :=
    started_outputs filed vets ⟨"", "run"⟩ ended rfl created
  cases stored.symm.trans same
  cases offers with
  | registered named kept _ =>
    cases named
    cases (OrderedMap.get?_insert_self _ _ _).symm.trans kept
    cases provides with
    | namespaced _ there =>
      cases OrderedMap.eq_of_get?_insert_empty there
      exact ⟨pushes, suits⟩
    | cluster _ there => cases there
  | inline spelled => cases spelled

/-- A run of a checked build sets an image with a timestamp policy that there is not and a push
secret that nobody has. It gets a task run that is to make this image. -/
theorem started_outputs_unchecked :
    let wrong : Image :=
      { image := "registry/other", pushSecret := some "absent", timestamp := some "tomorrow" }
    let run : BuildRun :=
      { metadata := { name := "run", uid := "0a1b2c" }
        spec := { build := { name := "app" }, output := some wrong } }
    let build : Build :=
      { metadata := { name := "app" }
        spec := { strategy := { name := "kaniko" }, output := { image := "registry/app" } }
        status := { registered := some .true } }
    let strategy : BuildStrategy :=
      { metadata := { name := "kaniko" }
        spec := { steps := [{ name := "build", image := "kaniko" }] } }
    let c := (((Cluster.put {} (.build build)).put (.strategy strategy)).put (.run run))
    c.Vets ∧ c.taskRuns.get? ⟨"", "run-0a1b2"⟩ = none ∧
      (∃ d t, (advance {} "" "run").Ends (Cluster.Meets .calm) c (.ok ()) d ∧
        d.taskRuns.get? ⟨"", "run-0a1b2"⟩ = some t ∧ t.Pushes strategy.spec wrong) ∧
      ¬c.Suits "" build.spec wrong := by
  intro wrong run build strategy c
  have stored : c.runs.get? run.metadata.key = some run := OrderedMap.get?_insert_self _ _ _
  have suffix : TaskRunPlan.nameSuffix? run.metadata.uid = some "0a1b2" := by decide
  have names : run.Names "run-0a1b2" := .of_suffix suffix
  have ended : (advance {} "" "run").Ends (Cluster.Meets .calm) c (.ok ()) _ :=
    ends_advance_created stored rfl rfl rfl names rfl names rfl
  refine ⟨?_, rfl, ⟨_, _, ended, OrderedMap.get?_insert_self _ _ _,
    TaskRunPlan.pushes_plan {} "run-0a1b2" (by decide)⟩, ?_⟩
  · refine Cluster.vets_iff.mpr fun key other stored _ => ?_
    cases OrderedMap.eq_of_get?_insert_empty stored
    decide
  · intro suits
    have there := suits.secret "absent" rfl
    revert there
    decide

end BuildRun

end BuildController
