import BuildController.Proofs.Parameters
import BuildController.Proofs.Patterns
import BuildController.Proofs.Provenance

/-! The labels of a started run. The task run bears the names of run and build. That of a build was
checked before the build was registered, and a build that a run spells out itself has none. The name
of a run is checked nowhere, so whether it may be the value of a label is left to whoever named
it. -/
namespace BuildController

/-- Registered are only builds whose names the check of build names accepts. -/
def Cluster.VetsNames (c : Cluster) : Prop :=
  ∀ key build, c.builds.get? key = some build → build.status.registered = some .true →
    c.Accepts .buildName build

/-- All labels are well-formed. -/
def TaskRun.WellLabelled (t : TaskRun) : Prop :=
  ∀ label value, t.metadata.labels.get? label = some value →
    Label.checkName label = [] ∧ Label.checkValue value = []

variable {hazards : Hazards} {settings : Settings} {c d : Cluster} {run : BuildRun} {build : Build}

namespace TaskRunPlan

theorem label_iff {label value : String} : (labels build run).get? label = some value ↔
    label = runLabel ∧ value = run.metadata.name ∨
      label = buildLabel ∧ value = build.metadata.name ∧ value ≠ "" := by
  have different : runLabel ≠ buildLabel := by decide
  have ofRun : ((OrderedMap.empty : Labels).insert runLabel run.metadata.name).get? label =
      some value ↔ label = runLabel ∧ value = run.metadata.name := by
    rw [OrderedMap.get?_insert]
    split
    · next here => simp [here, eq_comm]
    · next other => simp [other, OrderedMap.get?, OrderedMap.empty]
  unfold labels
  dsimp only
  split
  · next unnamed =>
    rw [ofRun, unnamed]
    tauto
  · next named =>
    rw [OrderedMap.get?_insert]
    split
    · next here =>
      have named' : value = build.metadata.name → value ≠ "" := fun same => same ▸ named
      simp [here, different.symm, and_iff_left_of_imp named', eq_comm]
    · next other => simpa [other] using ofRun

end TaskRunPlan

namespace Cluster

theorem vetsNames_iff : c.VetsNames ↔ ∀ key build, c.builds.get? key = some build →
    build.status.registered = some .true → build.nameViolation? = none := by
  have reader : Concern.buildName ≠ .ownerReferences := by decide
  simp only [VetsNames, accepts_iff reader]
  rfl

/-- The name of an offered build may be the value of a label. -/
theorem VetsNames.checkValue_eq_nil (vets : c.VetsNames) (offered : c.Offers run build) :
    Label.checkValue build.metadata.name = [] := by
  cases offered with
  | registered _ stored registered =>
    obtain ⟨-, value⟩ :=
      Build.nameViolation?_eq_none.mp (vetsNames_iff.mp vets _ build stored registered)
    rw [Label.checkValue, Label.valueProblems_eq_nil.mpr value, List.map_nil]
  | inline =>
    have unnamed : Label.checkValue "" = [] := by decide
    exact unnamed

end Cluster

/-- The name of the run decides, as all else about the labels is in order. -/
theorem TaskRun.plan_wellLabelled_iff {settings : Settings} {name : String}
    {strategy : StrategySpec} (fine : Label.checkValue build.metadata.name = []) :
    (TaskRun.plan settings name build run strategy).WellLabelled ↔
      Label.checkValue run.metadata.name = [] := by
  constructor
  · intro valid
    exact (valid runLabel run.metadata.name (TaskRunPlan.label_iff.mpr (.inl ⟨rfl, rfl⟩))).2
  · intro valid label value bound
    have keys : Label.checkName runLabel = [] ∧ Label.checkName buildLabel = [] := by decide
    obtain ⟨rfl, rfl⟩ | ⟨rfl, rfl, -⟩ := TaskRunPlan.label_iff.mp bound
    · exact ⟨keys.1, valid⟩
    · exact ⟨keys.2, fine⟩

namespace BuildRun

/-- In a control plane that vets the names of its builds, a task run that a pass creates has valid
keys for its labels, and valid values but for the name of the run. So all its labels are valid
exactly if this name may be the value of a label, and for a run whose name is a subdomain, as names
of objects have to be, exactly if it has at most 63 bytes. -/
theorem started_labels (keyed : c.Keyed) (vets : c.VetsNames) (key : ObjectKey)
    (ended : (advance settings key.ns key.name).Ends (Cluster.Meets hazards) c r d)
    (fresh : c.taskRuns.get? k = none) (created : d.taskRuns.get? k = some t) :
    ∃ run build, c.runs.get? key = some run ∧ c.Offers run build ∧
      (∀ label value, t.metadata.labels.get? label = some value ↔
        label = "buildrun.kiln.dev/name" ∧ value = run.metadata.name ∨
          label = "build.kiln.dev/name" ∧ value = build.metadata.name ∧ value ≠ "") ∧
      Label.checkName "buildrun.kiln.dev/name" = [] ∧ Label.checkName "build.kiln.dev/name" = [] ∧
      Label.checkValue build.metadata.name = [] ∧
      (t.WellLabelled ↔ Label.checkValue run.metadata.name = []) ∧
      (Label.checkSubdomain run.metadata.name = [] →
        (t.WellLabelled ↔ run.metadata.name.utf8ByteSize ≤ 63)) := by
  cases stored : c.runs.get? key with
  | none =>
    rw [advance_missing stored ended, fresh] at created
    cases created
  | some run =>
    cases keyed key run stored
    obtain ⟨build, strategy, name, judged, rfl⟩ := (advance_only stored ended).planned fresh created
    cases judged with
    | admitted _ offered =>
      have fine := vets.checkValue_eq_nil offered
      refine ⟨run, build, rfl, offered, fun label value => TaskRunPlan.label_iff, by decide,
        by decide, fine, TaskRun.plan_wellLabelled_iff fine, fun domain => ?_⟩
      rw [TaskRun.plan_wellLabelled_iff fine, Label.checkValue_of_subdomain domain]

/-- Build and run have short names, and the task run bears both. -/
theorem started_labels_short :
    let run : BuildRun :=
      { metadata := { name := "run", uid := "0a1b2c" }, spec := { build := { name := "app" } } }
    let build : Build :=
      { metadata := { name := "app" }
        spec := { strategy := { name := "kaniko" }, output := { image := "registry/app" } }
        status := { registered := some .true } }
    let strategy : BuildStrategy := { metadata := { name := "kaniko" }, spec := {} }
    let c := ((Cluster.put {} (.build build)).put (.strategy strategy)).put (.run run)
    ∃ d t, (advance {} "" "run").Ends (Cluster.Meets .all) c (.ok ()) d ∧
      d.taskRuns.get? ⟨"", "run-0a1b2"⟩ = some t ∧ t.WellLabelled := by
  intro run build strategy c
  have keyed : c.Keyed := Cluster.keyed_put (Cluster.keyed_put (Cluster.keyed_put
    Cluster.keyed_empty _) _) _
  have vets : c.VetsNames := by
    refine Cluster.vetsNames_iff.mpr fun key other stored _ => ?_
    cases OrderedMap.eq_of_get?_insert_empty stored
    decide
  have stored : c.runs.get? run.metadata.key = some run := OrderedMap.get?_insert_self _ _ _
  have suffix : TaskRunPlan.nameSuffix? run.metadata.uid = some "0a1b2" := by decide
  have names : run.Names "run-0a1b2" := .of_suffix suffix
  have ended : (advance {} "" "run").Ends (Cluster.Meets .all) c (.ok ()) _ :=
    ends_advance_created stored rfl rfl rfl names rfl names rfl
  let t := TaskRun.plan {} "run-0a1b2" build run strategy.spec
  have created : (c.withTaskRun t).taskRuns.get? ⟨"", "run-0a1b2"⟩ = some t :=
    OrderedMap.get?_insert_self _ _ _
  refine ⟨_, t, ended, created, ?_⟩
  obtain ⟨found, _, same, -, -, -, -, -, valid, -⟩ :=
    started_labels keyed vets ⟨"", "run"⟩ ended rfl created
  cases stored.symm.trans same
  exact valid.mpr (by decide)

/-- A run may have a longer name than the value of a label. Its task run is made all the same. -/
theorem started_labels_long :
    let name := "aaaaaaaaaaaaaaaaaaaaaaaaaaaaaaaaaaaaaaaaaaaaaaaaaaaaaaaaaaaaaaaa"
    let run : BuildRun :=
      { metadata := { name, uid := "0a1b2c" }, spec := { build := { name := "app" } } }
    let build : Build :=
      { metadata := { name := "app" }
        spec := { strategy := { name := "kaniko" }, output := { image := "registry/app" } }
        status := { registered := some .true } }
    let strategy : BuildStrategy := { metadata := { name := "kaniko" }, spec := {} }
    let c := ((Cluster.put {} (.build build)).put (.strategy strategy)).put (.run run)
    c.VetsNames ∧ Label.checkSubdomain name = [] ∧
      c.taskRuns.get? ⟨"", name ++ "-0a1b2"⟩ = none ∧
      ∃ d t, (advance {} "" name).Ends (Cluster.Meets .calm) c (.ok ()) d ∧
        d.taskRuns.get? ⟨"", name ++ "-0a1b2"⟩ = some t ∧
        t.metadata.labels.get? "buildrun.kiln.dev/name" = some name ∧
        Label.checkValue name = ["must be no more than 63 characters"] := by
  intro name run build strategy c
  have vets : c.VetsNames := by
    refine Cluster.vetsNames_iff.mpr fun key other stored _ => ?_
    cases OrderedMap.eq_of_get?_insert_empty stored
    decide
  have stored : c.runs.get? run.metadata.key = some run := OrderedMap.get?_insert_self _ _ _
  have suffix : TaskRunPlan.nameSuffix? run.metadata.uid = some "0a1b2" := by decide
  have names : run.Names (name ++ "-0a1b2") := .of_suffix suffix
  have ended : (advance {} "" name).Ends (Cluster.Meets .calm) c (.ok ()) _ :=
    ends_advance_created stored rfl rfl rfl names rfl names rfl
  refine ⟨vets, by decide, rfl, _, _, ended, OrderedMap.get?_insert_self _ _ _, ?_, by decide⟩
  exact TaskRunPlan.label_iff.mpr (.inl ⟨rfl, rfl⟩)

end BuildRun

end BuildController
