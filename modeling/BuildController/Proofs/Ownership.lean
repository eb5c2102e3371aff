import BuildController.Proofs.Bindings
import BuildController.Proofs.Verdict

/-! What a build makes of the owner references of its runs. It adjusts them one after the other, up
to the first run that something else controls. What is adjusted stays so: to adjust the runs again
changes nothing, and finds the same run in the way. -/
namespace BuildController

/-- What stops a build at a run whose owner references it should adjust. -/
def Build.blocker? (build : Build) (retain : Bool) (run : Metadata) : Option Violation :=
  match adjustment build retain run.ownerReferences with
  | .blocked controller => some (.controlledElsewhere run.name controller.kind controller.name)
  | .keep | .replace _ => none

/-- The runs once their owner references are adjusted, up to the first run that stops the build. -/
def Build.adjusted (build : Build) (retain : Bool) : List BuildRun → List BuildRun
  | [] => []
  | run :: rest =>
    match adjustment build retain run.metadata.ownerReferences with
    | .keep => run :: build.adjusted retain rest
    | .blocked _ => run :: rest
    | .replace references => run.withOwners references :: build.adjusted retain rest

/-- What a build makes of its runs. -/
def Build.settle (build : Build) (runs : List BuildRun) : List BuildRun :=
  match build.spec.retention.bind (·.atBuildDeletion) with
  | none => runs
  | some retain => build.adjusted retain runs

def BuildRun.controllers (run : BuildRun) : Nat :=
  run.metadata.ownerReferences.countP fun r => r.controller = some true

/-- The run refers to a build of this name. -/
def Build.NamedBy (build : Build) (run : BuildRun) : Prop :=
  ∃ r ∈ run.metadata.ownerReferences, r.kind = "Build" ∧ r.name = build.metadata.name

/-- What becomes of a run of the build. -/
inductive Build.Rearranges (build : Build) (retain : Bool) (run : BuildRun) : BuildRun → Prop
  | kept : Rearranges build retain run run
  | owned (retains : retain = true) (unnamed : ¬build.NamedBy run) (free : run.controllers = 0) :
      Rearranges build retain run
        (run.withOwners (run.metadata.ownerReferences ++ [build.ownerReference]))
  | freed (leaves : retain = false) :
      Rearranges build retain run (run.withOwners (run.metadata.ownerReferences.filter
        fun r => !(r.kind = "Build" && r.name = build.metadata.name)))

variable {build : Build} {retain : Bool} {run next : BuildRun}

/-- Whatever is in the second of two related lists is related to something in the first. -/
theorem exists_of_mem_forall₂ {R : α → β → Prop} {as : List α} {bs : List β}
    (related : List.Forall₂ R as bs) (member : b ∈ bs) : ∃ a ∈ as, R a b := by
  induction related with
  | nil => cases member
  | cons first _ ih =>
    obtain rfl | later := List.mem_cons.mp member
    · exact ⟨_, List.mem_cons_self, first⟩
    · obtain ⟨a, listed, holds⟩ := ih later
      exact ⟨a, List.mem_cons_of_mem _ listed, holds⟩

namespace Cluster

theorem isRunOf_iff {run : BuildRun} :
    isRunOf name run = true ↔ run.metadata.labels.get? buildLabel = some name := by
  simp [isRunOf]

theorem mem_runsOf {c : Cluster} {run : BuildRun} : run ∈ c.runsOf build ↔
    (∃ name, c.runs.get? ⟨build.metadata.namespaceName, name⟩ = some run) ∧
      run.metadata.labels.get? buildLabel = some build.metadata.name := by
  rw [runsOf, List.mem_filter, mem_inNamespace, isRunOf_iff]

/-- Control planes that agree on the runs of a build list the same ones. -/
theorem runsOf_congr {c d : Cluster}
    (agree : ∀ key run, key.ns = build.metadata.namespaceName →
      run.metadata.labels.get? buildLabel = some build.metadata.name →
      (d.runs.get? key = some run ↔ c.runs.get? key = some run)) :
    d.runsOf build = c.runsOf build := by
  have picked (c : Cluster) : c.runsOf build =
      (c.runs.entries.filter fun e => e.1.ns = build.metadata.namespaceName &&
        isRunOf build.metadata.name e.2).map (·.2) := by
    simp [runsOf, inNamespace, List.filter_map, List.filter_filter, Function.comp_def,
      Bool.and_comm]
  rw [picked, picked, OrderedMap.filter_entries_congr]
  intro key run both
  obtain ⟨ns, labelled⟩ := Bool.and_eq_true_iff.mp both
  exact agree key run (of_decide_eq_true ns) (isRunOf_iff.mp labelled)

end Cluster

theorem Cluster.ownershipVerdict_eq (c : Cluster) (build : Build) : c.ownershipVerdict build =
    (build.spec.retention.bind (·.atBuildDeletion)).bind fun retain =>
      ((c.runsOf build).map (·.metadata)).findSome? (build.blocker? retain) := by
  simp only [List.findSome?_map]
  rfl

/-- References that were adjusted need no adjustment. -/
theorem adjustment_replaced {references replaced : List OwnerReference}
    (replaces : adjustment build retain references = .replace replaced) :
    adjustment build retain replaced = .keep := by
  have named : build.ownerReference.namesBuild build = true := by
    simp [OwnerReference.namesBuild, Build.ownerReference]
  suffices settled : replaced.any (OwnerReference.namesBuild build) = retain by
    rw [adjustment, if_pos settled]
  unfold adjustment at replaces
  split at replaces
  · cases replaces
  · split at replaces
    · next retains =>
      split at replaces
      · cases replaces
      · cases replaces
        simp [List.any_append, named, retains]
    · next leaves =>
      cases replaces
      simp [leaves, List.any_filter]

namespace Build

theorem namesBuild_iff {r : OwnerReference} :
    r.namesBuild build = true ↔ r.kind = Build.kind ∧ r.name = build.metadata.name := by
  simp [OwnerReference.namesBuild]

theorem any_namesBuild_iff :
    run.metadata.ownerReferences.any (OwnerReference.namesBuild build) = true ↔
      build.NamedBy run := by
  rw [List.any_eq_true]
  exact exists_congr fun r => and_congr_right fun _ => Build.namesBuild_iff

theorem rearranges_of_replace
    (replaces : adjustment build retain run.metadata.ownerReferences = .replace references) :
    build.Rearranges retain run (run.withOwners references) := by
  unfold adjustment at replaces
  split at replaces
  · cases replaces
  · next differs =>
    split at replaces
    · next retains =>
      split at replaces
      · cases replaces
      · next free =>
        cases replaces
        refine .owned retains (fun named => differs ?_) ?_
        · rw [retains]
          exact any_namesBuild_iff.mpr named
        · exact List.countP_eq_zero.mpr (List.find?_eq_none.mp free)
    · next leaves =>
      cases replaces
      exact .freed (Bool.eq_false_of_not_eq_true leaves)

theorem rearranges_adjusted (build : Build) (retain : Bool) (runs : List BuildRun) :
    List.Forall₂ (build.Rearranges retain) runs (build.adjusted retain runs) := by
  induction runs with
  | nil => exact .nil
  | cons run rest ih =>
    unfold adjusted
    cases found : adjustment build retain run.metadata.ownerReferences with
    | keep => exact .cons .kept ih
    | blocked controller => exact .cons .kept (List.forall₂_same.mpr fun _ _ => .kept)
    | replace references => exact .cons (rearranges_of_replace found) ih

theorem Rearranges.owners (rearranges : build.Rearranges retain run next) :
    ∃ references, next = run.withOwners references := by
  cases rearranges with
  | kept | owned | freed => exact ⟨_, rfl⟩

/-- The reference of the build controls, but it is only added if nothing else does. -/
theorem Rearranges.controllers_le (rearranges : build.Rearranges retain run next)
    (single : run.controllers ≤ 1) : next.controllers ≤ 1 := by
  cases rearranges with
  | kept => exact single
  | owned _ _ free =>
    have counted : (run.withOwners (run.metadata.ownerReferences ++
        [build.ownerReference])).controllers = run.controllers + 1 := by
      simp [BuildRun.controllers, BuildRun.withOwners, List.countP_append, ownerReference]
    omega
  | freed => exact (List.Sublist.countP_le List.filter_sublist).trans single

theorem forall₂_settle (build : Build) (runs : List BuildRun) :
    List.Forall₂ (fun run next => ∃ references, next = run.withOwners references) runs
      (build.settle runs) := by
  unfold settle
  split
  · exact List.forall₂_same.mpr fun _ _ => ⟨_, rfl⟩
  · exact (rearranges_adjusted build _ runs).imp fun _ _ rearranges => rearranges.owners

theorem settle_keys (build : Build) (runs : List BuildRun) :
    (build.settle runs).map (·.metadata.key) = runs.map (·.metadata.key) := by
  have each := build.forall₂_settle runs
  generalize build.settle runs = next at each
  induction each with
  | nil => rfl
  | cons first _ ih =>
    obtain ⟨references, rfl⟩ := first
    rw [List.map_cons, List.map_cons, ih]
    rfl

theorem adjusted_adjusted (runs : List BuildRun) :
    build.adjusted retain (build.adjusted retain runs) = build.adjusted retain runs := by
  induction runs with
  | nil => rfl
  | cons run rest ih =>
    cases found : adjustment build retain run.metadata.ownerReferences with
    | keep => simp only [adjusted, found, ih]
    | blocked controller => simp only [adjusted, found]
    | replace references =>
      have kept := adjustment_replaced found
      simp only [adjusted, found, BuildRun.withOwners, kept, ih]

theorem blocker?_adjusted (runs : List BuildRun) :
    ((build.adjusted retain runs).map (·.metadata)).findSome? (build.blocker? retain) =
      (runs.map (·.metadata)).findSome? (build.blocker? retain) := by
  induction runs with
  | nil => rfl
  | cons run rest ih =>
    cases found : adjustment build retain run.metadata.ownerReferences with
    | keep => simp only [adjusted, found, List.map_cons, List.findSome?_cons, ih]
    | blocked controller => simp only [adjusted, found]
    | replace references =>
      have kept := adjustment_replaced found
      simp only [adjusted, found, List.map_cons, List.findSome?_cons, blocker?,
        BuildRun.withOwners, kept, ih]

/-- What is known about a build does not count. -/
theorem settle_status (build : Build) (status : BuildStatus) (runs : List BuildRun) :
    { build with status }.settle runs = build.settle runs := by
  have adjusted (retain : Bool) (runs : List BuildRun) :
      { build with status }.adjusted retain runs = build.adjusted retain runs := by
    induction runs with
    | nil => rfl
    | cons run rest ih =>
      unfold Build.adjusted
      rw [ih]
      rfl
  unfold settle
  simp only [adjusted]

theorem settle_settle (runs : List BuildRun) :
    build.settle (build.settle runs) = build.settle runs := by
  unfold settle
  split
  · rfl
  · exact adjusted_adjusted runs

/-- What a build makes of its runs depends on their metadata only. -/
theorem adjusted_of_metadata {runs others : List BuildRun}
    (same : others.map (·.metadata) = runs.map (·.metadata))
    (settled : build.adjusted retain runs = runs) : build.adjusted retain others = others := by
  induction runs generalizing others with
  | nil =>
    cases List.map_eq_nil_iff.mp same
    rfl
  | cons run rest ih =>
    obtain ⟨other, others, rfl, first, later⟩ := List.map_eq_cons_iff.mp same
    unfold adjusted at settled ⊢
    rw [first]
    cases found : adjustment build retain run.metadata.ownerReferences with
    | keep =>
      simp only [found, List.cons.injEq, true_and] at settled ⊢
      exact ih later settled
    | blocked controller => rfl
    | replace references =>
      simp only [found, List.cons.injEq] at settled
      have unchanged : run.metadata.ownerReferences = references := by
        rw [← settled.1]
        rfl
      have kept := adjustment_replaced found
      rw [← unchanged, found] at kept
      cases kept

theorem settle_of_metadata {runs others : List BuildRun}
    (same : others.map (·.metadata) = runs.map (·.metadata)) (settled : build.settle runs = runs) :
    build.settle others = others := by
  unfold settle at settled ⊢
  split
  · rfl
  · next retain found =>
    rw [found] at settled
    exact adjusted_of_metadata same settled

end Build

end BuildController
