import BuildController.Proofs.Downloads
import BuildController.Proofs.Leftovers

/-! Where the paths lead that a task run takes from a build. The context directory and the names of
downloaded files are appended to the root of the sources. Nothing keeps them from leading up, apart
from the reading of addresses: the last segment of one is no directory above. -/
namespace BuildController

/-- The value that a task run gives a parameter. -/
def TaskRun.param? (taskRun : TaskRun) (name : String) : Option String :=
  (taskRun.spec.params.find? fun param => param.name = name).map (·.value)

namespace Pass

/-- With some answers, the pass comes to perform the effect. -/
inductive Can (effect : Effect) : Pass α → Prop
  | now {resume : effect.Answer → Pass α} : Can effect (perform effect resume)
  | later {other : Effect} {resume : other.Answer → Pass α} (answer : other.Answer)
      (goesOn : Can effect (resume answer)) : Can effect (perform other resume)

variable {allowed : Effect → Prop} {effect : Effect} {pass : Pass α}

theorem Keeps.of_can {post : α → Prop} (keeps : pass.Keeps allowed post)
    (can : pass.Can effect) : allowed effect := by
  induction can with
  | now => exact keeps.1
  | later answer _ ih => exact ih (keeps.2 answer)

theorem Keeps.permits {post : α → Prop} (keeps : pass.Keeps allowed post)
    (permitted : ∀ effect, allowed effect → wider effect) : pass.Keeps wider post := by
  induction pass with
  | done outcome => cases outcome <;> exact keeps
  | perform effect resume ih =>
    exact ⟨permitted effect keeps.1, fun answer => ih answer (keeps.2 answer)⟩

/-- What comes after a pass can be performed if the pass can end. -/
theorem Can.bind {handling : Handling σ} {next : α → Pass β}
    (ended : pass.Ends handling s (.ok value) t) (can : (next value).Can effect) :
    (pass >>= next).Can effect := by
  change (pass.bind next).Can effect
  induction pass generalizing s with
  | done outcome =>
    obtain ⟨same, -⟩ := ended
    cases same
    exact can
  | perform other resume ih =>
    obtain ⟨answer, middle, -, rest⟩ := ended
    exact .later answer (ih answer rest)

end Pass

open Pass

namespace Concern

variable {build : Build}

/-- The check of the sources finds what is wrong with them. -/
theorem keeps_violation? (concern : Concern) :
    (concern.violation? build).Keeps Effect.Mute fun found =>
      concern = .source → found = build.spec.sourcesViolation? := by
  by_cases sources : concern = .source
  · subst sources
    exact fun _ => rfl
  · exact (mute_violation? build concern).keeps fun _ same => (sources same).elim

/-- If no concern is violated, the sources among them are usable. -/
theorem keeps_firstViolation? (concerns : List Concern) :
    (firstViolation? build concerns).Keeps Effect.Mute fun found =>
      found = none → .source ∈ concerns → build.spec.sourcesViolation? = none := by
  induction concerns with
  | nil => exact keeps_pure.mpr fun _ member => nomatch member
  | cons concern rest ih =>
    refine keeps_bind.mpr (keeps_checkpoint.mpr ⟨trivial, ?_⟩)
    refine keeps_bind.mpr ((keeps_violation? concern).mono fun found checked => ?_)
    cases found with
    | some violation => exact keeps_pure.mpr nofun
    | none =>
      refine ih.mono fun found sources none member => ?_
      rcases List.mem_cons.mp member with same | later
      · exact (checked same.symm).symm
      · exact sources none later

end Concern

namespace Build

variable {build : Build}

/-- Whatever a pass is told, it registers no build with sources that are not usable. -/
theorem register_sources {ns name : String}
    (registers : (register ns name).Can (.send (.updateBuildStatus build)))
    (registered : build.status.registered = some .true) : build.spec.sourcesViolation? = none := by
  have keeps : (register ns name).Only fun effect => ∀ build,
      effect = .send (.updateBuildStatus build) → build.status.registered = some .true →
        build.spec.sourcesViolation? = none := by
    refine Only.bind (only_send fun _ same => ?_) fun found => ?_
    · cases same
    cases found with
    | none => exact only_pure
    | some read =>
      refine keeps_bind.mpr ?_
      refine ((Concern.keeps_firstViolation? Concern.ofBuild).permits ?_).mono ?_
      · rintro _ mute build rfl
        exact nomatch mute
      · intro violation? sources
        refine (only_send ?_ : Only _ (send (.updateBuildStatus _)))
        intro build written registered
        cases written
        cases violation? with
        | some violation => cases registered
        | none => exact sources rfl (by decide)
  exact keeps.of_can registers build rfl registered

/-- What a pass writes on a control plane, it can write. -/
theorem register_can {c : Cluster} {key : ObjectKey} (filed : c.Filed)
    (stored : c.builds.get? key = some build) :
    (register key.ns key.name).Can (.send (.updateBuildStatus
      { build with status := .ofViolation (c.violation? build) })) := by
  cases filed.builds key build stored
  have found := (reads_getBuild stored).ends .calm
  have checked : (Concern.firstViolation? build Concern.ofBuild).Ends (Cluster.Meets .calm) c _ _ :=
    ends_firstViolation? filed
  exact .bind found (.bind checked .now)

theorem sourceContext_stays (spec : BuildSpec) :
    Path.Stays "/workspace/source" (TaskRunPlan.sourceContext spec)
      ((spec.source.bind (·.contextDir)).getD "").toList := by
  have absolute : ['/'] <+: "/workspace/source".toList := by decide
  have here : Path.Stays "/workspace/source" "/workspace/source" [] := Path.stays_root _ absolute
  unfold TaskRunPlan.sourceContext
  cases spec.source.bind (·.contextDir) with
  | none => exact here
  | some dir =>
    dsimp only
    split_ifs with empty
    · rw [empty]
      exact here
    · have below : TaskRunPlan.sourceRoot ++ "/" ++ Text.trimWhere (· = '/') dir =
          "/workspace/source" ++ .ofList ('/' :: Text.trimList (· = '/') dir.toList) := by
        apply String.toList_injective
        simp [TaskRunPlan.sourceRoot, Text.trimWhere]
      rw [below]
      exact Path.stays_append _ absolute (Path.foldl_enter_trimList dir.toList)

/-- A download goes below the root, under the text of its file. -/
theorem output_stays (source : HttpSource) :
    Path.Stays "/workspace/source"
      (.ofList (inRoot "/workspace/source" (SourceSteps.outputPath source).toList))
      (inRoot "/workspace/source" (SourceSteps.fileName source).toList) := by
  have below : String.ofList (inRoot "/workspace/source" (SourceSteps.outputPath source).toList) =
      "/workspace/source" ++
        .ofList ('/' :: inRoot "/workspace/source" (SourceSteps.fileName source).toList) := by
    have output : SourceSteps.outputPath source =
        "$(params.kiln-source-root)/" ++ SourceSteps.fileName source := rfl
    rw [output, String.toList_append, inRoot_append, String.ofList_append, String.ofList_toList]
  rw [below]
  exact Path.stays_append _ (by decide) fun _ => rfl

/-- The context directory and the downloads of a registered build lead to where their texts lead
from the root: they can leave it. Without parts that lead up they stay inside, and so does a
download under the last segment of its address if no parameter stands in that. -/
theorem register_paths {ns name : String}
    (registers : (register ns name).Can (.send (.updateBuildStatus build)))
    (registered : build.status.registered = some .true) (settings : Settings) (taskRun : String)
    (run : BuildRun) (strategy : StrategySpec) :
    let planned := TaskRun.plan settings taskRun build run strategy
    let root := "/workspace/source"
    planned.param? "kiln-source-root" = some root ∧
      (∃ context, planned.param? "kiln-source-context" = some context ∧
        Path.Stays root context ((build.spec.source.bind (·.contextDir)).getD "").toList) ∧
      ∃ git downloads made, planned.spec.taskSpec.steps = git ++ downloads ++ made ∧
        (∀ step ∈ git, step.output? = none) ∧ made.map Step.name = strategy.steps.map Step.name ∧
        build.spec.sources.Forall₂ (fun source step => ∃ file output, source.StoredAs file ∧
          step.output? = some output ∧
          Path.Stays root (.ofList (inRoot root output.toList)) (inRoot root file.toList) ∧
          (source.Ends file → '$' ∉ file.toList →
            Path.Inside root (.ofList (inRoot root output.toList)))) downloads := by
  intro planned root
  have usable := BuildSpec.sourcesViolation?_eq_none.mp (register_sources registers registered)
  refine ⟨rfl, ⟨_, rfl, sourceContext_stays build.spec⟩, ?_⟩
  refine ⟨_, _, _, TaskRunPlan.taskSpec_steps_eq settings, ?_, ?_, ?_⟩
  · exact SourceSteps.output?_gitStep settings build.spec
  · rw [List.map_map]
    rfl
  · rw [List.forall₂_map_right_iff]
    refine List.forall₂_same.mpr fun source member => ?_
    have fine := usable.usable source member
    have stays := output_stays source
    refine ⟨_, _, fine.storedAs_iff.mpr rfl, SourceSteps.output?_httpStep settings source, stays,
      ?_⟩
    intro ends free
    obtain ⟨undivided, plain⟩ := ends.plain
    refine stays.inside fun part member => ?_
    rw [inRoot_of_not_mem free, Text.splitAt_eq, List.splitOn_eq_singleton undivided,
      List.mem_singleton] at member
    rw [member]
    exact plain

/-- A directory and a file of the source. -/
theorem register_paths_inside :
    let stored : Build :=
      { metadata := { name := "app" }
        spec := { strategy := { name := "kaniko" }, output := { image := "registry/app" }
                  source := some { url := "https://example.com/app.git"
                                   contextDir := some "/services//./api/" }
                  sources := [⟨"license", "https://example.com/files/../LICENSE"⟩] } }
    let build : Build := { stored with status := .accepted }
    let run : BuildRun := { metadata := { name := "run" }, spec := { build := { name := "app" } } }
    let planned := TaskRun.plan {} "run-0a1b2" build run { steps := [] }
    (register "" "app").Can (.send (.updateBuildStatus build)) ∧
      build.status.registered = some .true ∧
      (∃ context, planned.param? "kiln-source-context" = some context ∧
        Path.Inside "/workspace/source" context) ∧
      ∃ step ∈ planned.spec.taskSpec.steps, ∃ output, step.output? = some output ∧
        Path.Inside "/workspace/source" (.ofList (inRoot "/workspace/source" output.toList)) := by
  intro stored build run planned
  let strategy : BuildStrategy := { metadata := { name := "kaniko" }, spec := {} }
  let c := (Cluster.put {} (.build stored)).put (.strategy strategy)
  have filed : c.Filed := (Cluster.filed_empty.put (.build stored)).put (.strategy strategy)
  have found : c.builds.get? ⟨"", "app"⟩ = some stored := OrderedMap.get?_insert_self _ _ _
  have accepts : c.violation? stored = none := by decide +kernel
  have registers := register_can filed found
  rw [accepts] at registers
  obtain ⟨-, ⟨context, value, stays⟩, git, downloads, made, steps, -, -, fetched⟩ :=
    register_paths registers rfl {} "run-0a1b2" run { steps := [] }
  refine ⟨registers, rfl, ⟨context, value, stays.inside (by decide)⟩, ?_⟩
  obtain _ | ⟨⟨file, output, stored, saved, stays, -⟩, _⟩ := fetched
  have usable := BuildSpec.sourcesViolation?_eq_none.mp (register_sources registers rfl)
  have named : SourceSteps.fileName ⟨"license", "https://example.com/files/../LICENSE"⟩ =
      "LICENSE" := by decide +kernel
  obtain rfl := named.symm.trans ((usable.usable _ List.mem_cons_self).storedAs_iff.mp stored)
  rw [show planned.spec.taskSpec.steps = _ from steps]
  exact ⟨_, by simp, output, saved, stays.inside (by decide)⟩

/-- A context directory that leads up, and the name of a source whose address has no name for a
file. -/
theorem register_paths_outside :
    let stored : Build :=
      { metadata := { name := "app" }
        spec := { strategy := { name := "kaniko" }, output := { image := "registry/app" }
                  source := some { url := "https://example.com/app.git"
                                   contextDir := some "../.." }
                  sources := [⟨"../../etc/profile", "https://example.com/"⟩] } }
    let build : Build := { stored with status := .accepted }
    let run : BuildRun := { metadata := { name := "run" }, spec := { build := { name := "app" } } }
    let planned := TaskRun.plan {} "run-0a1b2" build run { steps := [] }
    (register "" "app").Can (.send (.updateBuildStatus build)) ∧
      build.status.registered = some .true ∧
      planned.param? "kiln-source-context" = some "/workspace/source/../.." ∧
      ¬Path.Inside "/workspace/source" "/workspace/source/../.." ∧
      (∃ step ∈ planned.spec.taskSpec.steps,
        step.output? = some "$(params.kiln-source-root)/../../etc/profile") ∧
      ¬Path.Inside "/workspace/source" (.ofList (inRoot "/workspace/source"
        "$(params.kiln-source-root)/../../etc/profile".toList)) := by
  intro stored build run planned
  let strategy : BuildStrategy := { metadata := { name := "kaniko" }, spec := {} }
  let c := (Cluster.put {} (.build stored)).put (.strategy strategy)
  have filed : c.Filed := (Cluster.filed_empty.put (.build stored)).put (.strategy strategy)
  have found : c.builds.get? ⟨"", "app"⟩ = some stored := OrderedMap.get?_insert_self _ _ _
  have accepts : c.violation? stored = none := by decide +kernel
  have registers := register_can filed found
  rw [accepts] at registers
  exact ⟨registers, rfl, rfl, by decide, by decide +kernel, by decide⟩

end Build

end BuildController
