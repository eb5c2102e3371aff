import BuildController.Proofs.Discipline
import BuildController.Proofs.Lookups
import BuildController.Proofs.Ownership

/-! The phase of the builds. A pass over a build writes the status of the build and the owner
references of the runs that are labelled with its name, so passes over different builds write
different things, and each finds what it would have found alone. -/
namespace BuildController

/-- A build without what is known about it. -/
def Build.bare (build : Build) : Build := { build with status := {} }

/-- A run without what is known about it. -/
def BuildRun.bare (run : BuildRun) : BuildRun := { run with status := {} }

/-- A run without its owners. -/
def BuildRun.unowned (run : BuildRun) : BuildRun := run.withOwners []

namespace Cluster

/-- Builds and runs are stored under their own names. -/
structure Filed (c : Cluster) : Prop where
  builds : ∀ key build, c.builds.get? key = some build → build.metadata.key = key
  runs : c.Keyed

/-- The build that the run under the key is labelled with, so that it may change its owners. -/
def keeper (c : Cluster) (key : ObjectKey) : Option ObjectKey := do
  let run ← c.runs.get? key
  let build ← run.metadata.labels.get? buildLabel
  return ⟨key.ns, build⟩

/-- What is wrong with a build, the first of all its violations. -/
def violation? (c : Cluster) (build : Build) : Option Violation :=
  Concern.ofBuild.findSome? (c.verdict build)

/-- What passes over builds can make of a control plane: they change the statuses of builds and the
owners of labelled runs. -/
structure Reviewed (c d : Cluster) : Prop where
  same : d = { c with builds := d.builds, runs := d.runs }
  builds : ∀ key, (d.builds.get? key).map Build.bare = (c.builds.get? key).map Build.bare
  runs : ∀ key, (d.runs.get? key).map BuildRun.unowned = (c.runs.get? key).map BuildRun.unowned
  unkept : ∀ key, c.keeper key = none → d.runs.get? key = c.runs.get? key

/-- What a pass over the build under the key does, in a phase that began at the control plane. -/
inductive Registers (c : Cluster) (key : ObjectKey) : Effect → Prop
  | looks (looks : effect.Looks) : Registers c key effect
  | reads : Registers c key (.send (.getBuild key.ns key.name))
  | lists : Registers c key (.send (.listRunsOf ns name))
  | writes (stored : c.builds.get? key = some build) (own : build.metadata.key = key) :
      Registers c key (.send (.updateBuildStatus { build with status }))
  | owns (stored : c.runs.get? run.metadata.key = some run)
      (kept : c.keeper run.metadata.key = some key) :
      Registers c key (.send (.updateRun (run.withOwners references)))

/-- The control plane with another build under its name. -/
def withBuild (c : Cluster) (build : Build) : Cluster :=
  { c with builds := c.builds.insert build.metadata.key build }

variable {c d u : Cluster} {build : Build} {run : BuildRun} {key : ObjectKey}

theorem filed_empty : Filed {} where
  builds _ _ stored := by cases stored
  runs := keyed_empty

theorem Filed.put (filed : c.Filed) (object : Object) : (c.put object).Filed := by
  refine ⟨fun key build stored => ?_, keyed_put filed.runs object⟩
  cases object with
  | build new =>
    simp only [Cluster.put, OrderedMap.get?_insert] at stored
    split at stored
    · next same =>
      cases stored
      exact same.symm
    · exact filed.builds key build stored
  | _ => exact filed.builds key build stored

theorem Reviewed.refl (c : Cluster) : c.Reviewed c :=
  ⟨rfl, fun _ => rfl, fun _ => rfl, fun _ _ => rfl⟩

theorem Reviewed.shares (reviewed : c.Reviewed d) : c.Shares d := by
  rw [Shares, reviewed.same]

theorem Reviewed.build_of (reviewed : c.Reviewed d) (stored : d.builds.get? key = some checked) :
    ∃ build, c.builds.get? key = some build ∧
      checked = { build with status := checked.status } := by
  obtain ⟨build, present, bare⟩ := exists_of_map_eq (reviewed.builds key) stored
  refine ⟨build, present, ?_⟩
  exact (congrArg (fun b : Build => { b with status := checked.status }) bare).symm

theorem Reviewed.run_of (reviewed : c.Reviewed d) (stored : d.runs.get? key = some owned) :
    ∃ run, c.runs.get? key = some run ∧ owned = run.withOwners owned.metadata.ownerReferences := by
  obtain ⟨run, present, unowned⟩ := exists_of_map_eq (reviewed.runs key) stored
  refine ⟨run, present, ?_⟩
  exact (congrArg (·.withOwners owned.metadata.ownerReferences) unowned).symm

theorem keeper_iff : c.keeper k = some key ↔ ∃ run, c.runs.get? k = some run ∧
    run.metadata.labels.get? buildLabel = some key.name ∧ k.ns = key.ns := by
  obtain ⟨ns, name⟩ := key
  simp only [keeper, Option.bind_eq_bind, Option.bind_eq_some_iff, Option.pure_def,
    Option.some.injEq, ObjectKey.mk.injEq]
  constructor
  · rintro ⟨run, stored, _, labelled, rfl, rfl⟩
    exact ⟨run, stored, labelled, rfl⟩
  · rintro ⟨run, stored, labelled, rfl⟩
    exact ⟨run, stored, name, labelled, rfl, rfl⟩

theorem Reviewed.answer_updateBuildStatus (reviewed : c.Reviewed u)
    (stored : c.builds.get? build.metadata.key = some build) :
    u.answer (.updateBuildStatus { build with status }) =
      (.ok (), u.withBuild { build with status }) := by
  obtain ⟨current, present, bare⟩ := exists_of_map_eq (reviewed.builds _).symm stored
  have written : { current with status } = { build with status } :=
    congrArg (fun b : Build => { b with status }) bare
  exact commit_modify?_ok.mpr ⟨current, present, by rw [written]; rfl⟩

theorem Reviewed.answer_updateRun (reviewed : c.Reviewed u)
    (stored : c.runs.get? run.metadata.key = some run) :
    u.answer (.updateRun (run.withOwners references)) =
      (.ok (), u.withRun (run.withOwners references)) := by
  obtain ⟨current, present, unowned⟩ := exists_of_map_eq (reviewed.runs _).symm stored
  have written : current.withOwners references = run.withOwners references :=
    congrArg (·.withOwners references) unowned
  have status := congrArg BuildRun.status written
  change current.status = run.status at status
  refine commit_modify?_ok.mpr ⟨current, present, ?_⟩
  rw [status]
  rfl

theorem Reviewed.withBuild (reviewed : c.Reviewed u)
    (stored : c.builds.get? build.metadata.key = some build) :
    c.Reviewed (u.withBuild { build with status }) := by
  refine ⟨?_, fun k => ?_, reviewed.runs, reviewed.unkept⟩
  · rw [reviewed.same]
    rfl
  · by_cases here : k = build.metadata.key
    · have written : (u.withBuild { build with status }).builds.get? build.metadata.key =
          some { build with status } := OrderedMap.get?_insert_self _ _ _
      rw [here, stored, written]
      rfl
    · exact (congrArg _ (OrderedMap.get?_insert_of_ne _ _ here)).trans (reviewed.builds k)

theorem Reviewed.withRun (reviewed : c.Reviewed u)
    (stored : c.runs.get? run.metadata.key = some run)
    (kept : (c.keeper run.metadata.key).isSome) :
    c.Reviewed (u.withRun (run.withOwners references)) := by
  refine ⟨?_, reviewed.builds, fun k => ?_, fun k free => ?_⟩
  · rw [reviewed.same]
    rfl
  · by_cases here : k = run.metadata.key
    · have written : (u.withRun (run.withOwners references)).runs.get? run.metadata.key =
          some (run.withOwners references) := OrderedMap.get?_insert_self _ _ _
      rw [here, stored, written]
      rfl
    · exact (congrArg _ (OrderedMap.get?_insert_of_ne _ _ here)).trans (reviewed.runs k)
  · have other : k ≠ run.metadata.key := by
      rintro rfl
      rw [free] at kept
      cases kept
    exact (OrderedMap.get?_insert_of_ne _ _ other).trans (reviewed.unkept k free)

/-- The effects of a pass over a build touch the build and the runs that it keeps. -/
theorem Registers.effect {effect : Effect} {answer : effect.Answer} (reviewed : c.Reviewed u)
    (registers : c.Registers key effect) (met : Meets .calm u effect answer d) :
    c.Reviewed d ∧ (∀ other ≠ key, d.builds.get? other = u.builds.get? other) ∧
      ∀ k, c.keeper k ≠ some key → d.runs.get? k = u.runs.get? k := by
  cases registers with
  | looks looks =>
    cases looks.reads.2 answer d met
    exact ⟨reviewed, fun _ _ => rfl, fun _ _ => rfl⟩
  | reads | lists =>
    obtain ⟨value, answered, -⟩ := meets_calm_send.mp met
    cases answered
    exact ⟨reviewed, fun _ _ => rfl, fun _ _ => rfl⟩
  | writes stored own =>
    subst own
    obtain ⟨value, answered, -⟩ := meets_calm_send.mp met
    rw [reviewed.answer_updateBuildStatus stored] at answered
    cases answered
    exact ⟨reviewed.withBuild stored, fun other different =>
      OrderedMap.get?_insert_of_ne _ _ different, fun _ _ => rfl⟩
  | owns stored kept =>
    obtain ⟨value, answered, -⟩ := meets_calm_send.mp met
    rw [reviewed.answer_updateRun stored] at answered
    cases answered
    refine ⟨reviewed.withRun stored (by rw [kept]; rfl), fun _ _ => rfl, fun k free => ?_⟩
    refine OrderedMap.get?_insert_of_ne _ _ ?_
    rintro rfl
    exact free kept

/-- The discipline of passes over builds. -/
def registration (c : Cluster) : Discipline where
  sound := c.Reviewed
  allows s effect := ∃ key, s = .build key ∧ c.Registers key effect
  spares s u d := ∀ key, s = .build key → d.builds.get? key = u.builds.get? key ∧
    ∀ k, c.keeper k = some key → d.runs.get? k = u.runs.get? k
  live := True
  refl s d key same := ⟨rfl, fun _ _ => rfl⟩
  trans first second key same := by
    obtain ⟨build, runs⟩ := first key same
    obtain ⟨build', runs'⟩ := second key same
    exact ⟨build'.trans build, fun k kept => (runs' k kept).trans (runs k kept)⟩
  keeps := by
    rintro t u d effect answer reviewed ⟨key, rfl, registers⟩ met
    obtain ⟨reviewed', builds, runs⟩ := registers.effect reviewed met
    refine ⟨reviewed', ?_⟩
    rintro s other key' rfl
    have different : key' ≠ key := by
      rintro rfl
      exact other rfl
    refine ⟨builds key' different, fun k kept => runs k ?_⟩
    rw [kept]
    simpa using different

theorem steady_of_looks {effect : Effect} (looks : effect.Looks) :
    c.registration.Steady (.build key) effect where
  allowed := ⟨key, rfl, .looks looks⟩
  answered v _ := by
    obtain ⟨answer, met⟩ := looks.reads.1
    exact ⟨answer, v, met⟩
  same := by
    intro u v d answer first follows met
    have unchanged := looks.reads.2 answer d met
    subst unchanged
    exact ⟨rfl, looks.same (first.shares.between follows.sound.shares) met⟩

/-- What becomes of runs that a build adjusts, in the control plane `v` after `u`. -/
structure Adjusts (c : Cluster) (key : ObjectKey) (build : Build) (retain : Bool)
    (runs : List BuildRun) (u : Cluster) (r : Except PassError (Option Violation)) (v : Cluster) :
    Prop where
  result : r = .ok ((runs.map (·.metadata)).findSome? (build.blocker? retain))
  reviewed : c.Reviewed v
  unchecked : v.builds.get? key = u.builds.get? key
  adjusted : ∀ run ∈ build.adjusted retain runs, v.runs.get? run.metadata.key = some run
  others : ∀ k, c.keeper k = some key → (∀ run ∈ runs, run.metadata.key ≠ k) →
    v.runs.get? k = u.runs.get? k

end Cluster

open Pass

variable {c u : Cluster} {build : Build} {key : ObjectKey}

theorem assures_adjustRuns {runs : List BuildRun}
    (listed : ∀ run ∈ runs, c.runs.get? run.metadata.key = some run ∧
      c.keeper run.metadata.key = some key)
    (sorted : runs.Pairwise fun r s => r.metadata.key < s.metadata.key) (reviewed : c.Reviewed u)
    (stored : ∀ run ∈ runs, u.runs.get? run.metadata.key = some run) :
    (adjustRuns build retain runs).Assures c.registration (.build key)
      (c.Adjusts key build retain runs u) u := by
  induction runs generalizing u with
  | nil => exact ⟨rfl, reviewed, rfl, by simp [Build.adjusted], fun _ _ _ => rfl⟩
  | cons run rest ih =>
    obtain ⟨here, listed⟩ := List.forall_mem_cons.mp listed
    obtain ⟨below, sorted⟩ := List.pairwise_cons.mp sorted
    obtain ⟨present, stored⟩ := List.forall_mem_cons.mp stored
    have apart : ∀ other ∈ rest, other.metadata.key ≠ run.metadata.key := by
      intro other member same
      exact KeyOrder.irrefl _ (same ▸ below other member)
    unfold adjustRuns
    cases found : adjustment build retain run.metadata.ownerReferences with
    | keep =>
      refine (ih listed sorted reviewed stored).mono fun r v adjusts => ⟨?_, adjusts.reviewed,
        adjusts.unchecked, ?_, fun k kept away => ?_⟩
      · simpa [Build.blocker?, found] using adjusts.result
      · simp only [Build.adjusted, found, List.forall_mem_cons]
        exact ⟨(adjusts.others _ here.2 apart).trans present, adjusts.adjusted⟩
      · exact adjusts.others k kept (List.forall_mem_cons.mp away).2
    | blocked controller =>
      refine ⟨?_, reviewed, rfl, ?_, fun _ _ _ => rfl⟩
      · simp [Build.blocker?, found]
      · simp only [Build.adjusted, found, List.forall_mem_cons]
        exact ⟨present, stored⟩
    | replace references =>
      have sent : (send (.updateRun (run.withOwners references))).Assures c.registration
          (.build key) (fun r v => r = .ok () ∧ c.Reviewed v ∧
            v.builds.get? key = u.builds.get? key ∧
            v.runs.get? run.metadata.key = some (run.withOwners references) ∧
            ∀ k, c.keeper k = some key → k ≠ run.metadata.key →
              v.runs.get? k = u.runs.get? k) u := by
        refine assures_send ⟨key, rfl, .owns here.1 here.2⟩ (fun v follows _ => ?_)
          fun v follows value d answered reviewed => ?_
        · exact ⟨(), _, follows.sound.answer_updateRun here.1⟩
        · rw [follows.sound.answer_updateRun here.1] at answered
          cases answered
          obtain ⟨build, runs⟩ := follows.spares key rfl
          refine ⟨rfl, reviewed, build, OrderedMap.get?_insert_self _ _ _, fun k kept other => ?_⟩
          exact (OrderedMap.get?_insert_of_ne _ _ other).trans (runs k kept)
      refine assures_bind sent (fun _ v after => ?_) fun error v failed => by cases failed.1
      obtain ⟨-, reviewed, unchecked, written, kept⟩ := after
      have left : ∀ other ∈ rest, v.runs.get? other.metadata.key = some other := by
        intro other member
        exact (kept _ (listed other member).2 (apart other member)).trans (stored other member)
      refine (ih listed sorted reviewed left).mono fun r w adjusts => ⟨?_, adjusts.reviewed,
        adjusts.unchecked.trans unchecked, ?_, fun k mine away => ?_⟩
      · simpa [Build.blocker?, found] using adjusts.result
      · simp only [Build.adjusted, found, List.forall_mem_cons]
        exact ⟨(adjusts.others _ here.2 apart).trans written, adjusts.adjusted⟩
      · obtain ⟨first, later⟩ := List.forall_mem_cons.mp away
        exact (adjusts.others k mine later).trans (kept k mine first.symm)

namespace Cluster

theorem Filed.runsOf_sorted (filed : c.Filed) (build : Build) :
    (c.runsOf build).Pairwise fun r s => r.metadata.key < s.metadata.key :=
  (inNamespace_sorted filed.runs).filter _

/-- A build keeps the runs that are labelled with its name. -/
theorem Filed.keeper_eq (filed : c.Filed) {run : BuildRun} (member : run ∈ c.runsOf build) :
    c.runs.get? run.metadata.key = some run ∧
      c.keeper run.metadata.key = some build.metadata.key := by
  obtain ⟨⟨name, stored⟩, labelled⟩ := mem_runsOf.mp member
  have here := filed.runs _ _ stored
  rw [here]
  exact ⟨stored, keeper_iff.mpr ⟨run, stored, labelled, rfl⟩⟩

theorem Filed.exists_mem_runsOf (filed : c.Filed)
    (kept : c.keeper k = some build.metadata.key) :
    ∃ run ∈ c.runsOf build, run.metadata.key = k := by
  obtain ⟨run, stored, labelled, ns⟩ := keeper_iff.mp kept
  obtain ⟨_, name⟩ := k
  cases ns
  exact ⟨run, mem_runsOf.mpr ⟨⟨name, stored⟩, labelled⟩, filed.runs _ _ stored⟩

/-- A build finds its runs as they were when the phase began. -/
theorem Reviewed.runsOf (reviewed : c.Reviewed u)
    (mine : ∀ k, c.keeper k = some build.metadata.key → u.runs.get? k = c.runs.get? k) :
    u.runsOf build = c.runsOf build := by
  refine runsOf_congr fun k run ns labelled => ?_
  constructor
  · intro stored
    obtain ⟨old, present, owned⟩ := reviewed.run_of stored
    have same : run.metadata.labels = old.metadata.labels := by
      rw [owned]
      rfl
    rw [← mine k (keeper_iff.mpr ⟨old, present, same ▸ labelled, ns⟩), stored]
  · intro stored
    rw [mine k (keeper_iff.mpr ⟨run, stored, labelled, ns⟩), stored]

theorem Filed.settle_sorted (filed : c.Filed) (build : Build) :
    (build.settle (c.runsOf build)).Pairwise fun r s => r.metadata.key < s.metadata.key := by
  have sorted := List.pairwise_map.mpr (filed.runsOf_sorted build)
  rw [← build.settle_keys] at sorted
  exact List.pairwise_map.mp sorted

/-- A build keeps what it makes of its runs, too. -/
theorem Filed.keeper_settle (filed : c.Filed) {run : BuildRun}
    (member : run ∈ build.settle (c.runsOf build)) :
    c.keeper run.metadata.key = some build.metadata.key := by
  have listed : run.metadata.key ∈ (c.runsOf build).map (·.metadata.key) := by
    rw [← build.settle_keys]
    exact List.mem_map_of_mem member
  obtain ⟨old, present, same⟩ := List.mem_map.mp listed
  rw [← same]
  exact (filed.keeper_eq present).2

theorem Filed.exists_mem_settle (filed : c.Filed)
    (kept : c.keeper k = some build.metadata.key) :
    ∃ run ∈ build.settle (c.runsOf build), run.metadata.key = k := by
  obtain ⟨old, member, rfl⟩ := filed.exists_mem_runsOf kept
  have listed : old.metadata.key ∈ (build.settle (c.runsOf build)).map (·.metadata.key) := by
    rw [build.settle_keys]
    exact List.mem_map_of_mem member
  exact List.mem_map.mp listed

/-- What a pass over the build under the key leaves behind, in a phase that began at `c`. -/
structure Registered (c : Cluster) (key : ObjectKey) (r : Except PassError Unit) (v : Cluster) :
    Prop where
  ended : r = .ok ()
  status : ∀ build, c.builds.get? key = some build →
    v.builds.get? key = some { build with status := .ofViolation (c.violation? build) }
  settled : ∀ build, c.builds.get? key = some build → ∀ run ∈ build.settle (c.runsOf build),
    v.runs.get? run.metadata.key = some run

/-- The state of a pass over a build between two effects, once its runs are adjusted. -/
structure Owned (c : Cluster) (key : ObjectKey) (build : Build) (v : Cluster) : Prop where
  reviewed : c.Reviewed v
  stored : v.builds.get? key = some build
  settled : ∀ run ∈ build.settle (c.runsOf build), v.runs.get? run.metadata.key = some run

theorem Owned.next (filed : c.Filed) (present : c.builds.get? key = some build)
    (owned : c.Owned key build u) (follows : c.registration.Follows (.build key) u v) :
    c.Owned key build v := by
  obtain ⟨builds, runs⟩ := follows.spares key rfl
  refine ⟨follows.sound, builds.trans owned.stored, fun run member => ?_⟩
  have kept := filed.keeper_settle member
  rw [filed.builds key build present] at kept
  exact (runs _ kept).trans (owned.settled run member)

end Cluster

namespace Build

section Checks

variable (filed : c.Filed) (present : c.builds.get? key = some build)
  (begun : c.registration.Follows (.build key) c u)

include filed present begun

theorem assures_ownershipViolation? :
    (ownershipViolation? build).Assures c.registration (.build key)
      (fun r v => r = .ok (c.ownershipVerdict build) ∧ c.Owned key build v) u := by
  have own := filed.builds key build present
  have held {v : Cluster} (follows : c.registration.Follows (.build key) c v) :
      v.builds.get? key = some build ∧
        ∀ run ∈ c.runsOf build, v.runs.get? run.metadata.key = some run := by
    obtain ⟨builds, runs⟩ := follows.spares key rfl
    refine ⟨builds.trans present, fun run member => ?_⟩
    obtain ⟨stored, kept⟩ := filed.keeper_eq member
    exact (runs _ (own ▸ kept)).trans stored
  rw [Cluster.ownershipVerdict_eq]
  unfold ownershipViolation?
  cases retained : build.spec.retention.bind (·.atBuildDeletion) with
  | none =>
    obtain ⟨stored, runs⟩ := held begun
    refine assures_pure ⟨rfl, begun.sound, stored, fun run member => ?_⟩
    rw [settle, retained] at member
    exact runs run member
  | some retain =>
    have listed : (send (.listRunsOf build.metadata.namespaceName build.metadata.name)).Assures
        c.registration (.build key) (fun r v => r = .ok (c.runsOf build) ∧
          c.registration.Follows (.build key) c v) u := by
      refine assures_send ⟨key, rfl, .lists⟩ (fun v _ _ => ⟨_, v, rfl⟩) ?_
      intro v later value d answered _
      have follows := begun.trans later
      have same : v.runsOf build = c.runsOf build := follows.sound.runsOf fun k kept =>
        (follows.spares key rfl).2 k (own ▸ kept)
      cases answered
      exact ⟨congrArg Except.ok same, follows⟩
    refine assures_bind listed (fun runs v after => ?_) fun error v failed => by cases failed.1
    obtain ⟨same, follows⟩ := after
    cases same
    obtain ⟨stored, runs⟩ := held follows
    refine (assures_adjustRuns (fun run member => ?_) (filed.runsOf_sorted build) follows.sound
      runs).mono fun r w adjusts => ⟨adjusts.result, adjusts.reviewed,
        adjusts.unchecked.trans stored, ?_⟩
    · rw [← own]
      exact filed.keeper_eq member
    · rw [settle, retained]
      exact adjusts.adjusted

theorem assures_firstViolation? :
    (Concern.firstViolation? build Concern.ofBuild).Assures c.registration (.build key)
      (fun r v => r = .ok (c.violation? build) ∧ c.Owned key build v) u := by
  have checked : checkpoint.Assures c.registration (.build key)
      (fun r v => r = .ok () ∧ c.registration.Follows (.build key) u v) u :=
    reads_checkpoint.assures (only_checkpoint (Cluster.steady_of_looks trivial)) begun.sound
  refine assures_bind checked (fun _ v after => ?_) fun error v failed => by cases failed.1
  have owned := assures_ownershipViolation? filed present (begun.trans after.2)
  refine assures_bind owned (fun found v after => ?_) fun error v failed => by cases failed.1
  obtain ⟨same, owned⟩ := after
  cases same
  unfold Cluster.violation? Concern.ofBuild
  rw [List.findSome?_cons]
  have first : c.verdict build .ownerReferences = c.ownershipVerdict build := rfl
  rw [first]
  cases c.ownershipVerdict build with
  | some violation => exact assures_pure ⟨rfl, owned⟩
  | none =>
    refine ((Concern.reads_firstViolation? (by decide)).assures
      ((Concern.only_readers (by decide) build).mono fun _ looks =>
        Cluster.steady_of_looks looks.looks)
      owned.reviewed).mono ?_
    rintro r w ⟨rfl, follows⟩
    refine ⟨?_, owned.next filed present follows⟩
    rw [owned.reviewed.shares.findSome? (by decide)]

end Checks

/-- A pass over a build assures its registration, whatever passes over other builds do. -/
theorem assures_register (filed : c.Filed) (key : ObjectKey) :
    (register key.ns key.name).Assures c.registration (.build key) (c.Registered key) c := by
  have found : (send (.getBuild key.ns key.name)).Assures c.registration (.build key)
      (fun r v => r = .ok (c.builds.get? key) ∧ c.registration.Follows (.build key) c v) c := by
    refine assures_send ⟨key, rfl, .reads⟩ (fun v _ _ => ⟨_, v, rfl⟩) ?_
    intro v follows value d answered _
    cases answered
    exact ⟨congrArg Except.ok (follows.spares key rfl).1, follows⟩
  refine assures_bind found (fun read v after => ?_) fun error v failed => by cases failed.1
  obtain ⟨same, follows⟩ := after
  cases same
  cases present : c.builds.get? key with
  | none => exact assures_pure ⟨rfl, by simp [present], by simp [present]⟩
  | some build =>
    have checked := assures_firstViolation? filed present follows
    refine assures_bind checked (fun found w after => ?_) fun error w failed => by cases failed.1
    obtain ⟨same, owned⟩ := after
    cases same
    have own := filed.builds key build present
    have stored : c.builds.get? build.metadata.key = some build := own ▸ present
    refine assures_send ⟨key, rfl, .writes present own⟩ (fun x later _ => ?_) ?_
    · exact ⟨(), _, later.sound.answer_updateBuildStatus stored⟩
    · intro x later value d answered _
      rw [later.sound.answer_updateBuildStatus stored] at answered
      cases answered
      have settled := (owned.next filed present later).settled
      refine ⟨rfl, fun other same => ?_, fun other same => ?_⟩
      · cases present.symm.trans same
        rw [← own]
        exact OrderedMap.get?_insert_self _ _ _
      · cases present.symm.trans same
        exact settled

end Build

end BuildController
