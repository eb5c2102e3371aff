import BuildController.Proofs.Demands
import BuildController.Proofs.Footprint

/-! What the retention of a build makes of the owners of its runs. However the check ends, a run has
been left alone, or it has got the reference of the build, or it has lost those to a build of that
name. Once the check finds nothing wrong, the runs are as the retention wants them, and to check
again writes nothing. What the check goes by are kind and name, so a run that refers to an earlier
build of the name counts as owned. -/
namespace BuildController

/-- The run refers to this very build. -/
def Build.Owns (build : Build) (run : BuildRun) : Prop :=
  ∃ r ∈ run.metadata.ownerReferences, r.apiVersion = "kiln.dev/v1" ∧ r.kind = "Build" ∧
    r.name = build.metadata.name ∧ r.uid = build.metadata.uid

/-- What the check of a build can make of a control plane, however it ends. -/
structure Build.Rearranged (build : Build) (retain : Bool) (c d : Cluster) : Prop where
  same : d = { c with runs := d.runs }
  mine : ∀ key run, c.runs.get? key = some run → key.ns = build.metadata.namespaceName →
    run.metadata.labels.get? buildLabel = some build.metadata.name →
    ∃ next, d.runs.get? key = some next ∧ build.Rearranges retain run next
  others : ∀ key, (∀ run, c.runs.get? key = some run → key.ns = build.metadata.namespaceName →
    run.metadata.labels.get? buildLabel ≠ some build.metadata.name) →
    d.runs.get? key = c.runs.get? key
  controllers : ∀ key run next, c.runs.get? key = some run → d.runs.get? key = some next →
    run.controllers ≤ 1 → next.controllers ≤ 1

/-- The runs of the build are as its retention wants them. -/
def Build.Arranged (build : Build) (retain : Bool) (c : Cluster) : Prop :=
  ∀ key run, c.runs.get? key = some run → key.ns = build.metadata.namespaceName →
    run.metadata.labels.get? buildLabel = some build.metadata.name →
    (build.NamedBy run ↔ retain = true)

/-- To check the runs of the build finds nothing wrong and writes nothing. -/
structure Build.Rests (build : Build) (c : Cluster) : Prop where
  ends : (ownershipViolation? build).Ends (Cluster.Meets .calm) c (.ok none) c
  only : ∀ hazards r d log,
    (ownershipViolation? build).Ends (Cluster.Meets hazards).recorded (c, []) r (d, log) →
    (r = .ok none ∨ ∃ error, r = .error error ∧ hazards.Causes error) ∧ d = c ∧
      ∀ event ∈ log, ¬event.1.Writes

open Pass

variable {hazards : Hazards} {c d : Cluster} {build : Build} {retain : Bool} {run next : BuildRun}
  {runs : List BuildRun} {references : List OwnerReference}

namespace Build

theorem adjustment_eq_keep :
    adjustment build retain run.metadata.ownerReferences = .keep ↔
      (build.NamedBy run ↔ retain = true) := by
  rw [← any_namesBuild_iff]
  unfold adjustment
  split
  · next same => simp [same]
  · next differs =>
    constructor
    · intro keeps
      split at keeps
      · split at keeps <;> cases keeps
      · cases keeps
    · intro same
      exact (differs (Bool.eq_iff_iff.mpr same)).elim

/-- If nothing stops the build, no run is left to be adjusted. -/
theorem namedBy_adjusted
    (unblocked : (runs.map (·.metadata)).findSome? (build.blocker? retain) = none) :
    ∀ next ∈ build.adjusted retain runs, build.NamedBy next ↔ retain = true := by
  induction runs with
  | nil =>
    intro _ member
    cases member
  | cons run rest ih =>
    rw [List.map_cons, List.findSome?_cons] at unblocked
    unfold adjusted
    cases found : adjustment build retain run.metadata.ownerReferences with
    | keep =>
      simp only [blocker?, found] at unblocked
      exact List.forall_mem_cons.mpr ⟨adjustment_eq_keep.mp found, ih unblocked⟩
    | blocked controller =>
      simp only [blocker?, found] at unblocked
      cases unblocked
    | replace references =>
      simp only [blocker?, found] at unblocked
      have kept : adjustment build retain (run.withOwners references).metadata.ownerReferences =
          .keep := adjustment_replaced found
      exact List.forall_mem_cons.mpr ⟨adjustment_eq_keep.mp kept, ih unblocked⟩

theorem adjustRuns_eq_pure (settled : ∀ run ∈ runs, build.NamedBy run ↔ retain = true) :
    adjustRuns build retain runs = pure none := by
  induction runs with
  | nil => rfl
  | cons run rest ih =>
    obtain ⟨first, later⟩ := List.forall_mem_cons.mp settled
    rw [adjustRuns, adjustment_eq_keep.mpr first]
    exact ih later

end Build

namespace Cluster

/-- Of runs that are stored one after the other, each is there afterwards unless two share a
name. -/
theorem get?_withRuns_of_mem (c : Cluster)
    (sorted : runs.Pairwise fun r s => r.metadata.key < s.metadata.key) (member : run ∈ runs) :
    (c.withRuns runs).runs.get? run.metadata.key = some run := by
  induction runs generalizing c with
  | nil => cases member
  | cons first rest ih =>
    obtain ⟨below, sorted⟩ := List.pairwise_cons.mp sorted
    rw [withRuns_cons]
    obtain rfl | later := List.mem_cons.mp member
    · obtain same | ⟨other, later, own, -⟩ := (c.withRun run).get?_withRuns rest run.metadata.key
      · rw [same]
        exact OrderedMap.get?_insert_self _ _ _
      · have above := below other later
        rw [own] at above
        exact (KeyOrder.irrefl _ above).elim
    · exact ih (c.withRun first) sorted later

end Cluster

namespace Build

theorem Rearranged.exists_run (rearranged : build.Rearranged retain c d)
    (written : d.runs.get? key = some next) :
    ∃ run, c.runs.get? key = some run ∧ build.Rearranges retain run next := by
  by_cases mine : ∃ run, c.runs.get? key = some run ∧ key.ns = build.metadata.namespaceName ∧
      run.metadata.labels.get? buildLabel = some build.metadata.name
  · obtain ⟨run, stored, ns, labelled⟩ := mine
    obtain ⟨other, here, rearranges⟩ := rearranged.mine key run stored ns labelled
    cases written.symm.trans here
    exact ⟨run, stored, rearranges⟩
  · have same := rearranged.others key fun run stored ns labelled =>
      mine ⟨run, stored, ns, labelled⟩
    exact ⟨next, same.symm.trans written, .kept⟩

section Retained

variable (retained : build.spec.retention.bind (·.atBuildDeletion) = some retain)

include retained

theorem settle_retained (runs : List BuildRun) :
    build.settle runs = build.adjusted retain runs := by
  rw [settle, retained]

/-- Wherever the check ends, each run has been rearranged or left alone. -/
theorem rearranges_withRuns (filed : c.Filed) (n : Nat) (stored : c.runs.get? key = some run) :
    ∃ next, (c.withRuns ((build.settle (c.runsOf build)).take n)).runs.get? key = some next ∧
      build.Rearranges retain run next := by
  obtain same | ⟨next, taken, own, written⟩ :=
    c.get?_withRuns ((build.settle (c.runsOf build)).take n) key
  · exact ⟨run, same.trans stored, .kept⟩
  · have settled := List.mem_of_mem_take taken
    rw [settle_retained retained] at settled
    obtain ⟨old, listed, rearranges⟩ :=
      exists_of_mem_forall₂ (rearranges_adjusted build retain (c.runsOf build)) settled
    have here : next.metadata.key = old.metadata.key := by
      obtain ⟨references, rfl⟩ := rearranges.owners
      rfl
    have present := (filed.keeper_eq listed).1
    rw [← here, own, stored] at present
    cases present
    exact ⟨next, written, rearranges⟩

theorem rearranged_withRuns (filed : c.Filed) (n : Nat) :
    build.Rearranged retain c (c.withRuns ((build.settle (c.runsOf build)).take n)) where
  same := Cluster.withRuns_same c _
  mine _ _ stored _ _ := rearranges_withRuns retained filed n stored
  others key foreign := by
    obtain same | ⟨next, taken, rfl, -⟩ :=
      c.get?_withRuns ((build.settle (c.runsOf build)).take n) key
    · exact same
    · have kept := filed.keeper_settle (List.mem_of_mem_take taken)
      obtain ⟨run, stored, labelled, ns⟩ := Cluster.keeper_iff.mp kept
      exact (foreign run stored ns labelled).elim
  controllers key run next stored written single := by
    obtain ⟨other, here, rearranges⟩ := rearranges_withRuns retained filed n stored
    cases written.symm.trans here
    exact rearranges.controllers_le single

/-- If nothing stops the build, its runs end up as its retention wants them. -/
theorem arranged_withRuns (filed : c.Filed) (unblocked : c.ownershipVerdict build = none) :
    build.Arranged retain (c.withRuns (build.settle (c.runsOf build))) := by
  intro key next written ns labelled
  have settled : next ∈ build.settle (c.runsOf build) := by
    obtain same | ⟨other, member, -, here⟩ :=
      c.get?_withRuns (build.settle (c.runsOf build)) key
    · have stored := same.symm.trans written
      have kept : c.keeper key = some build.metadata.key :=
        Cluster.keeper_iff.mpr ⟨next, stored, labelled, ns⟩
      obtain ⟨other, member, rfl⟩ := filed.exists_mem_settle kept
      cases written.symm.trans (c.get?_withRuns_of_mem (filed.settle_sorted build) member)
      exact member
    · cases written.symm.trans here
      exact member
  rw [Cluster.ownershipVerdict_eq, retained] at unblocked
  rw [settle_retained retained] at settled
  exact namedBy_adjusted unblocked next settled

/-- Where the runs are as the retention wants them, the check only looks them up. -/
theorem Arranged.rests (arranged : build.Arranged retain c) : build.Rests c := by
  have found : adjustRuns build retain (c.runsOf build) = pure none := by
    refine adjustRuns_eq_pure fun run member => ?_
    obtain ⟨⟨name, stored⟩, labelled⟩ := Cluster.mem_runsOf.mp member
    exact arranged _ run stored rfl labelled
  have reads : (ownershipViolation? build).Reads c (.ok none) := by
    unfold ownershipViolation?
    rw [retained]
    refine (reads_send rfl).bind ?_
    change (adjustRuns build retain (c.runsOf build)).Reads c _
    rw [found]
    exact reads_pure
  refine ⟨reads.ends .calm, fun hazards r d log ended => ?_⟩
  obtain ⟨same, outcome⟩ := reads.only ((ends_iff_recorded []).mpr ⟨log, ended⟩)
  refine ⟨outcome, same, ?_⟩
  unfold ownershipViolation? at ended
  rw [retained] at ended
  rcases ends_bind.mp ended with ⟨runs, ⟨_, _⟩, listed, rest⟩ | ⟨error, failed, -⟩
  · obtain ⟨met, rfl⟩ := ends_send_recorded.mp listed
    cases met.answer_ok
    change (adjustRuns build retain (c.runsOf build)).Ends _ _ _ _ at rest
    rw [found] at rest
    cases (ends_pure.mp rest).2
    exact not_writes_of_read rfl
  · obtain ⟨_, ⟨-, impossible⟩, same⟩ | ⟨_, ⟨-, rfl⟩, -⟩ := ends_send.mp failed
    · cases same
    · exact not_writes_of_read rfl

/-- However the check ends, it has rearranged the owners of the runs of the build, and if it finds
nothing wrong, they are as the retention wants them. -/
theorem rearranged_of_ends (filed : c.Filed)
    (ended : (ownershipViolation? build).Ends (Cluster.Meets hazards) c r d) :
    build.Rearranged retain c d ∧ (r = .ok none → build.Arranged retain d) := by
  obtain ⟨rfl, rfl⟩ | ⟨error, n, rfl, -, rfl⟩ := ownershipViolation?_only filed ended
  · have rearranged := rearranged_withRuns retained filed (build.settle (c.runsOf build)).length
    rw [List.take_length] at rearranged
    exact ⟨rearranged, fun fine => arranged_withRuns retained filed (Except.ok.inj fine)⟩
  · refine ⟨rearranged_withRuns retained filed n, ?_⟩
    intro impossible
    cases impossible

/-- The check of a build that says what is to become of its runs. However it ends, runs that are
labelled with its name have kept their owners, or have got the build as one more, or have lost those
of its name, and nothing else has changed; no run has a second controller unless it had one before.
If the check finds nothing wrong, each of those runs refers to a build of the name exactly if it is
to be deleted along, and the next check finds nothing wrong either and writes nothing. -/
theorem retention_settles (filed : c.Filed) :
    (∃ violation? d, (ownershipViolation? build).Ends (Cluster.Meets .calm) c (.ok violation?) d) ∧
      ∀ hazards r d, (ownershipViolation? build).Ends (Cluster.Meets hazards) c r d →
        (r = .ok none ∨
          (∃ violation, r = .ok (some violation) ∧ violation.reason = .ownerReferenceFailed) ∨
          ∃ error, r = .error error ∧ hazards.Causes error) ∧
        build.Rearranged retain c d ∧
        (r = .ok none → build.Arranged retain d ∧ build.Rests d) := by
  refine ⟨⟨_, _, ends_ownershipViolation? filed⟩, fun hazards r d ended => ?_⟩
  obtain ⟨rearranged, settled⟩ := rearranged_of_ends retained filed ended
  refine ⟨?_, rearranged, fun fine => ⟨settled fine, (settled fine).rests retained⟩⟩
  obtain ⟨rfl, -⟩ | ⟨error, -, rfl, caused, -⟩ := ownershipViolation?_only filed ended
  · cases verdict : c.ownershipVerdict build with
    | none => exact .inl rfl
    | some violation =>
      exact .inr (.inl ⟨violation, rfl, Cluster.reason_of_ownershipVerdict verdict⟩)
  · exact .inr (.inr ⟨error, rfl, caused⟩)

end Retained

/-- A build that leaves its runs behind gives up one of them, whose other owner stays. -/
theorem retention_settles_freed :
    let build : Build :=
      { metadata := { name := "app", uid := "app-uid" }
        spec := { strategy := { name := "kaniko" }, output := { image := "registry/app" }
                  retention := some { atBuildDeletion := some false } } }
    let job : OwnerReference := ⟨"batch/v1", "Job", "nightly", "job-uid", none⟩
    let run : BuildRun :=
      { metadata := { name := "run", labels := OrderedMap.empty.insert buildLabel "app"
                      ownerReferences := [build.ownerReference, job] }
        spec := { build := { name := "app" } } }
    let c := (Cluster.put {} (.build build)).put (.run run)
    ∃ d, (ownershipViolation? build).Ends (Cluster.Meets .calm) c (.ok none) d ∧
      d.runs.get? ⟨"", "run"⟩ = some (run.withOwners [job]) ∧ build.Arranged false d ∧
      build.Rests d := by
  intro build job run c
  have filed : c.Filed := (Cluster.filed_empty.put (.build build)).put (.run run)
  have ended : (ownershipViolation? build).Ends (Cluster.Meets .calm) c (.ok none) _ :=
    ends_ownershipViolation? filed
  have leaves : build.spec.retention.bind (·.atBuildDeletion) = some false := rfl
  obtain ⟨-, each⟩ := retention_settles leaves filed
  obtain ⟨-, -, settled⟩ := each .calm _ _ ended
  obtain ⟨arranged, rests⟩ := settled rfl
  exact ⟨_, ended, by decide, arranged, rests⟩

/-- Once a build whose runs are to be deleted along has found nothing wrong, a run refers to this
very build exactly if it did so before, or if it referred to no build of the name. A run that
referred to one has been left alone, whichever build it meant. -/
theorem retained_owned (retained : build.spec.retention.bind (·.atBuildDeletion) = some true)
    (filed : c.Filed)
    (ended : (ownershipViolation? build).Ends (Cluster.Meets hazards) c (.ok none) d) :
    ∀ key next, d.runs.get? key = some next → key.ns = build.metadata.namespaceName →
      next.metadata.labels.get? buildLabel = some build.metadata.name →
      ∃ run, c.runs.get? key = some run ∧ (build.NamedBy run → next = run) ∧
        (build.Owns next ↔ build.Owns run ∨ ¬build.NamedBy run) := by
  intro key next written ns labelled
  obtain ⟨rearranged, settled⟩ := rearranged_of_ends retained filed ended
  obtain ⟨run, stored, rearranges⟩ := rearranged.exists_run written
  refine ⟨run, stored, ?_⟩
  have named : build.NamedBy next := (settled rfl key next written ns labelled).mpr rfl
  cases rearranges with
  | kept => exact ⟨fun _ => rfl, by simp [named]⟩
  | owned _ unnamed =>
    have owns : build.Owns (run.withOwners (run.metadata.ownerReferences ++
        [build.ownerReference])) :=
      ⟨build.ownerReference, List.mem_append_right _ (List.mem_singleton_self _), rfl, rfl, rfl,
        rfl⟩
    exact ⟨fun named => (unnamed named).elim, by simp [owns, unnamed]⟩
  | freed leaves => cases leaves

/-- A run that something else has had a part in gets the reference of the build. -/
theorem retained_owned_joined :
    let build : Build :=
      { metadata := { name := "app", uid := "app-uid" }
        spec := { strategy := { name := "kaniko" }, output := { image := "registry/app" }
                  retention := some { atBuildDeletion := some true } } }
    let run : BuildRun :=
      { metadata := { name := "run", labels := OrderedMap.empty.insert buildLabel "app"
                      ownerReferences := [⟨"batch/v1", "Job", "nightly", "job-uid", none⟩] }
        spec := { build := { name := "app" } } }
    let c := (Cluster.put {} (.build build)).put (.run run)
    ∃ d next, (ownershipViolation? build).Ends (Cluster.Meets .calm) c (.ok none) d ∧
      d.runs.get? ⟨"", "run"⟩ = some next ∧ build.Owns next := by
  intro build run c
  have filed : c.Filed := (Cluster.filed_empty.put (.build build)).put (.run run)
  have ended : (ownershipViolation? build).Ends (Cluster.Meets .calm) c (.ok none) _ :=
    ends_ownershipViolation? filed
  let next := run.withOwners (run.metadata.ownerReferences ++ [build.ownerReference])
  let d := c.withRuns (build.settle (c.runsOf build))
  have written : d.runs.get? ⟨"", "run"⟩ = some next := by decide
  obtain ⟨old, stored, -, owns⟩ := retained_owned rfl filed ended _ next written rfl (by decide)
  have unnamed : ¬build.NamedBy old := by
    cases OrderedMap.eq_of_get?_insert_empty stored
    rintro ⟨r, member, kind, -⟩
    cases List.mem_singleton.mp member
    revert kind
    decide
  exact ⟨_, next, ended, written, owns.mpr (.inr unnamed)⟩

/-- A run refers to an earlier build of the name. To the build that has taken its place this run
counts as its own, though it is not. -/
theorem retained_not_owned :
    let build : Build :=
      { metadata := { name := "app", uid := "app-uid" }
        spec := { strategy := { name := "kaniko" }, output := { image := "registry/app" }
                  retention := some { atBuildDeletion := some true } } }
    let earlier : OwnerReference := ⟨"kiln.dev/v1", "Build", "app", "old-uid", none⟩
    let run : BuildRun :=
      { metadata := { name := "run", labels := OrderedMap.empty.insert buildLabel "app"
                      ownerReferences := [earlier] }
        spec := { build := { name := "app" } } }
    let c := (Cluster.put {} (.build build)).put (.run run)
    ∃ d, (ownershipViolation? build).Ends (Cluster.Meets .calm) c (.ok none) d ∧
      d.runs.get? ⟨"", "run"⟩ = some run ∧ ¬build.Owns run := by
  intro build earlier run c
  have filed : c.Filed := (Cluster.filed_empty.put (.build build)).put (.run run)
  have ended : (ownershipViolation? build).Ends (Cluster.Meets .calm) c (.ok none) _ :=
    ends_ownershipViolation? filed
  refine ⟨_, ended, by decide, ?_⟩
  rintro ⟨r, member, -, -, -, same⟩
  cases List.mem_singleton.mp member
  revert same
  decide

end Build

end BuildController
