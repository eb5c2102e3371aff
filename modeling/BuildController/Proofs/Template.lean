import BuildController.Proofs.Outputs

/-! The template of a task run. Four functions put it together: one for the git source with its
volume, one for the downloads, one for the volume of the push secret and one for the steps of the
strategy. Together they give the steps in their order, with a volume for every mount that they
add. -/
namespace BuildController

/-- Mounts for a secret: one of a declared volume that holds it, and none if there is no secret. -/
inductive TaskSpec.Mounts (task : TaskSpec) : Option String → List VolumeMount → Prop
  | none : task.Mounts none []
  | secret {mount : VolumeMount} {secret : String}
      (declared : ⟨mount.name, some secret⟩ ∈ task.volumes) (readOnly : mount.readOnly = true) :
      task.Mounts (some secret) [mount]

namespace TaskSpec

open SourceSteps

theorem addSources_steps (settings : Settings) (spec : BuildSpec) (task : TaskSpec) :
    (task.addSources settings spec).steps =
      task.steps ++ (spec.gitSource?.toList.map fun source => gitStep settings source defaultName)
        ++ spec.sources.map (httpStep settings) := by
  unfold addSources
  cases spec.gitSource? with
  | none => simp
  | some source => simp [addGit]

/-- The volumes of the sources: one for the credentials of the git source, if it has any. -/
def cloneVolumes (spec : BuildSpec) : List Volume :=
  (spec.gitSource?.bind (·.cloneSecret)).toList.map fun secret =>
    ⟨secretVolume secret, some secret⟩

theorem addSources_volumes (settings : Settings) (spec : BuildSpec) {task : TaskSpec}
    (bare : task.volumes = []) : (task.addSources settings spec).volumes = cloneVolumes spec := by
  unfold addSources cloneVolumes
  cases spec.gitSource? with
  | none => simpa using bare
  | some source =>
    simp only [addGit, bare, addSecretVolume, Option.bind_some]
    cases source.cloneSecret with
    | none => rfl
    | some secret => rfl

end TaskSpec

namespace TaskRunPlan

variable {build : Build} {run : BuildRun} {strategy : StrategySpec}

theorem taskSpec_steps_eq (settings : Settings) :
    (taskSpec settings build run strategy).steps =
      (build.spec.gitSource?.toList.map fun source =>
          SourceSteps.gitStep settings source SourceSteps.defaultName)
        ++ build.spec.sources.map (SourceSteps.httpStep settings)
        ++ strategy.steps.map (strategyStep (outputImage build run).pushSecret
          (mergeEnv build.spec.env run.spec.env)) := by
  simp only [taskSpec, TaskSpec.addSources_steps, List.nil_append]

theorem taskSpec_volumes (settings : Settings) :
    (taskSpec settings build run strategy).volumes =
      TaskSpec.cloneVolumes build.spec ++ pushVolumes (outputImage build run).pushSecret := by
  simp only [taskSpec]
  rw [TaskSpec.addSources_volumes settings build.spec rfl]

/-- There is one volume of each secret at most, and their names begin differently. -/
theorem volumes_nodup (settings : Settings) :
    ((taskSpec settings build run strategy).volumes.map Volume.name).Nodup := by
  rw [taskSpec_volumes, List.map_append, List.nodup_append]
  have clone : ((TaskSpec.cloneVolumes build.spec).map Volume.name).Nodup := by
    unfold TaskSpec.cloneVolumes
    cases build.spec.gitSource?.bind (·.cloneSecret) <;> simp
  have push : ((pushVolumes (outputImage build run).pushSecret).map Volume.name).Nodup := by
    unfold pushVolumes
    cases (outputImage build run).pushSecret <;> simp
  refine ⟨clone, push, ?_⟩
  intro first ofClone second ofPush
  obtain ⟨secret, -, rfl⟩ : ∃ secret, _ ∧ SourceSteps.secretVolume secret = first := by
    simpa [TaskSpec.cloneVolumes] using ofClone
  have same : second = pushSecretVolume := by
    unfold pushVolumes at ofPush
    cases given : (outputImage build run).pushSecret with
    | none => simp [given] at ofPush
    | some secret => simpa [given] using ofPush
  rw [same]
  exact SourceSteps.secretVolume_ne secret

/-- The git step mounts the volume of its credentials. -/
theorem mounts_gitStep (settings : Settings) {source : GitSource}
    (git : build.spec.gitSource? = some source) :
    (taskSpec settings build run strategy).Mounts source.cloneSecret
      (SourceSteps.gitStep settings source SourceSteps.defaultName).volumeMounts := by
  have declared (secret : String) (given : source.cloneSecret = some secret) :
      ⟨SourceSteps.secretVolume secret, some secret⟩ ∈
        (taskSpec settings build run strategy).volumes := by
    rw [taskSpec_volumes, TaskSpec.cloneVolumes, git, Option.bind_some, given]
    exact List.mem_append_left _ List.mem_cons_self
  unfold SourceSteps.gitStep
  cases given : source.cloneSecret with
  | none => exact .none
  | some secret => exact .secret (declared secret given) rfl

theorem mounts_pushMounts (settings : Settings) :
    (taskSpec settings build run strategy).Mounts (outputImage build run).pushSecret
      (pushMounts (outputImage build run).pushSecret) := by
  cases given : (outputImage build run).pushSecret with
  | none => exact .none
  | some secret =>
    refine .secret ?_ rfl
    rw [taskSpec_volumes, given]
    exact List.mem_append_right _ List.mem_cons_self

end TaskRunPlan

/-- The names of sources that the checks accept make different names of steps, and the one of the
git source is none of them. -/
theorem BuildSpec.SourcesUsable.stepNames_nodup {spec : BuildSpec} (usable : spec.SourcesUsable) :
    ("source-default" :: spec.sources.map fun source => "source-" ++ source.name).Nodup := by
  have injective : Function.Injective fun name : String => "source-" ++ name := by
    intro first second same
    exact String.append_right_inj _ |>.mp same
  have names : (spec.sources.map fun source => "source-" ++ source.name) =
      (spec.sources.map (·.name)).map fun name => "source-" ++ name := by
    rw [List.map_map]
    rfl
  rw [names, List.nodup_cons]
  constructor
  · intro member
    obtain ⟨name, named, same⟩ := List.mem_map.mp member
    obtain ⟨source, declared, rfl⟩ := List.mem_map.mp named
    have reserved : "source-" ++ source.name = "source-" ++ SourceSteps.defaultName := same
    exact (usable.usable source declared).free (injective reserved)
  · exact usable.distinct.map injective

namespace TaskRun

/-- A task runs the step of the git source, one step for each auxiliary source and then those of the
strategy, in their order. The latter differ from those of the strategy in their environment and in
one mount of the push secret, if there is one. Whatever mounts are added, the volume is declared and
holds the secret that is meant, and no two volumes share a name. Nor do two steps that fetch
sources, if the check of the sources accepts the build. -/
theorem plan_template (settings : Settings) (name : String) (build : Build) (run : BuildRun)
    (strategy : StrategySpec) :
    let task := (plan settings name build run strategy).spec.taskSpec
    let output := run.spec.output.getD build.spec.output
    ∃ git downloads made, task.steps = git ++ downloads ++ made ∧
      build.spec.gitSource?.toList.Forall₂ (fun source step =>
        step.name = "source-default" ∧ task.Mounts source.cloneSecret step.volumeMounts) git ∧
      build.spec.sources.Forall₂ (fun source step =>
        step.name = "source-" ++ source.name ∧ step.volumeMounts = []) downloads ∧
      strategy.steps.Forall₂ (fun step ran => ∃ mounts, task.Mounts output.pushSecret mounts ∧
        ran = { step with env := ran.env, volumeMounts := step.volumeMounts ++ mounts }) made ∧
      (task.volumes.map Volume.name).Nodup ∧
      (build.spec.sourcesViolation? = none → ((git ++ downloads).map Step.name).Nodup) := by
  intro task output
  refine ⟨_, _, _, TaskRunPlan.taskSpec_steps_eq settings, ?_, ?_, ?_,
    TaskRunPlan.volumes_nodup settings, ?_⟩
  · cases git : build.spec.gitSource? with
    | none => exact .nil
    | some source => exact .cons ⟨rfl, TaskRunPlan.mounts_gitStep settings git⟩ .nil
  · rw [List.forall₂_map_right_iff]
    exact List.forall₂_same.mpr fun source _ => ⟨rfl, rfl⟩
  · rw [List.forall₂_map_right_iff]
    refine List.forall₂_same.mpr fun step _ => ?_
    exact ⟨_, TaskRunPlan.mounts_pushMounts settings, rfl⟩
  · intro accepted
    have distinct := (BuildSpec.sourcesViolation?_eq_none.mp accepted).stepNames_nodup
    have downloads : (build.spec.sources.map (SourceSteps.httpStep settings)).map Step.name =
        build.spec.sources.map fun source => "source-" ++ source.name := by
      rw [List.map_map]
      rfl
    rw [List.map_append, downloads]
    cases build.spec.gitSource? with
    | none => exact (List.nodup_cons.mp distinct).2
    | some source => exact distinct

/-- A build with credentials for both ends whose clone secret has a name that is like the volume of
push secrets. -/
theorem plan_template_secrets :
    let build : Build :=
      { metadata := { name := "app" }
        spec := { strategy := { name := "kaniko" }
                  output := { image := "registry/app", pushSecret := some "registry" }
                  source := some { url := "https://example.com/app.git"
                                   cloneSecret := some "kiln-push-secret" }
                  sources := [⟨"license", "https://example.com/LICENSE"⟩,
                    ⟨"notice", "https://example.com/NOTICE"⟩] } }
    let run : BuildRun := { metadata := { name := "run" }, spec := { build := { name := "app" } } }
    let strategy : StrategySpec := { steps := [{ name := "make", image := "kaniko" }] }
    let task := (plan {} "run-0a1b2" build run strategy).spec.taskSpec
    build.spec.sourcesViolation? = none ∧
      task.stepNames = ["source-default", "source-license", "source-notice", "make"] ∧
      (task.volumes.map Volume.name).Nodup ∧
      ∃ fetching, fetching <+: task.steps ∧ fetching.length = 3 ∧
        (fetching.map Step.name).Nodup := by
  intro build run strategy task
  have accepted : build.spec.sourcesViolation? = none := by decide +kernel
  obtain ⟨git, downloads, made, steps, ofGit, ofSources, -, volumes, distinct⟩ :=
    plan_template {} "run-0a1b2" build run strategy
  refine ⟨accepted, by decide, volumes, git ++ downloads, ?_, ?_, distinct accepted⟩
  · rw [show task.steps = git ++ downloads ++ made from steps]
    exact List.prefix_append _ _
  · rw [List.length_append, ← ofGit.length_eq, ← ofSources.length_eq]
    rfl

end TaskRun

end BuildController
