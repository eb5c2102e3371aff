import BuildController.Proofs.Registration

/-! What the phase of the builds leaves behind. It is a function of the control plane that the phase
found, in whatever order the passes went on, and once a phase is completed the next one changes
nothing. -/
namespace BuildController

namespace Cluster

/-- What the phase of the builds makes of a control plane. Every build of the watched namespace gets
its status and settles its runs, and everything else is left alone. -/
structure Reviews (settings : Settings) (c d : Cluster) : Prop extends c.Reviewed d where
  registered : ∀ key build, key.ns = settings.ns → c.builds.get? key = some build →
    d.builds.get? key = some { build with status := .ofViolation (c.violation? build) } ∧
      ∀ run ∈ build.settle (c.runsOf build), d.runs.get? run.metadata.key = some run
  others : ∀ key, (key.ns = settings.ns → c.builds.get? key = none) →
    d.builds.get? key = c.builds.get? key ∧
      ∀ k, c.keeper k = some key → d.runs.get? k = c.runs.get? k

/-- What passes over builds assure. -/
def registrations (c : Cluster) : Subject → Except PassError Unit → Cluster → Prop
  | .build key => c.Registered key
  | .run _ => fun _ _ => True

/-- The builds of the watched namespace have settled: a further phase would find nothing to do. -/
def Settled (settings : Settings) (c : Cluster) : Prop :=
  ∀ key build, key.ns = settings.ns → c.builds.get? key = some build →
    build.status = .ofViolation (c.violation? build) ∧
      build.settle (c.runsOf build) = c.runsOf build

variable {settings : Settings} {c d : Cluster}

theorem Filed.buildSubjects_eq (filed : c.Filed) :
    Resync.buildSubjects settings (inNamespace settings.ns c.builds) =
      (inNamespace settings.ns c.builds).map fun build => .build build.metadata.key := by
  refine List.map_congr_left fun build member => ?_
  rw [← ((mem_inNamespace_iff filed.builds).mp member).1]
  rfl

theorem Filed.mem_buildSubjects (filed : c.Filed) :
    .build key ∈ Resync.buildSubjects settings (inNamespace settings.ns c.builds) ↔
      key.ns = settings.ns ∧ ∃ build, c.builds.get? key = some build := by
  simp only [filed.buildSubjects_eq, List.mem_map, mem_inNamespace_iff filed.builds]
  constructor
  · rintro ⟨build, ⟨ns, stored⟩, same⟩
    cases same
    exact ⟨ns, build, stored⟩
  · rintro ⟨ns, build, stored⟩
    cases filed.builds key build stored
    exact ⟨build, ⟨ns, stored⟩, rfl⟩

theorem Filed.buildSubjects_nodup (filed : c.Filed) :
    (Resync.buildSubjects settings (inNamespace settings.ns c.builds)).Nodup := by
  rw [filed.buildSubjects_eq]
  refine List.pairwise_map.mpr ((inNamespace_sorted filed.builds).imp fun below same => ?_)
  rw [Subject.build.inj same] at below
  exact KeyOrder.irrefl _ below

theorem Filed.assures_registrations (filed : c.Filed) :
    ∀ s ∈ Resync.buildSubjects settings (inNamespace settings.ns c.builds),
      (s.pass settings).Assures c.registration s (c.registrations s) c := by
  intro s member
  obtain ⟨build, -, rfl⟩ := List.mem_map.mp member
  exact Build.assures_register filed ⟨settings.ns, build.metadata.name⟩

/-- However the passes over builds go on side by side, this is what they leave behind. -/
theorem Filed.reviews (filed : c.Filed)
    (completes : (Phase.ofBuilds settings c).Completes settings d) : c.Reviews settings d := by
  obtain ⟨reviewed, unlisted, listed⟩ := Phase.completed filed.assures_registrations
    (Reviewed.refl c) filed.buildSubjects_nodup completes
  refine { reviewed with registered := fun key build ns stored => ?_, others := fun key away => ?_ }
  · obtain ⟨r, u, spares, registered⟩ :=
      listed (.build key) (filed.mem_buildSubjects.mpr ⟨ns, build, stored⟩)
    obtain ⟨builds, runs⟩ := spares key rfl
    refine ⟨builds.trans (registered.status build stored), fun run member => ?_⟩
    have kept := filed.keeper_settle member
    rw [filed.builds key build stored] at kept
    exact (runs _ kept).trans (registered.settled build stored run member)
  · refine unlisted (.build key) (fun member => ?_) key rfl
    obtain ⟨ns, build, stored⟩ := filed.mem_buildSubjects.mp member
    rw [away ns] at stored
    cases stored

theorem Reviewed.filed (reviewed : c.Reviewed d) (filed : c.Filed) : d.Filed := by
  constructor
  · intro key build stored
    obtain ⟨old, present, checked⟩ := reviewed.build_of stored
    have same : build.metadata = old.metadata := by rw [checked]
    rw [same, filed.builds key old present]
  · intro key run stored
    obtain ⟨old, present, owned⟩ := reviewed.run_of stored
    have same : run.metadata.key = old.metadata.key := by
      rw [owned]
      rfl
    rw [same, filed.runs key old present]

/-- A build of the watched namespace is stored under the key, or there is none. -/
theorem watched_or (settings : Settings) (c : Cluster) (key : ObjectKey) :
    (key.ns = settings.ns ∧ ∃ build, c.builds.get? key = some build) ∨
      (key.ns = settings.ns → c.builds.get? key = none) := by
  by_cases ns : key.ns = settings.ns
  · cases stored : c.builds.get? key with
    | none => exact .inr fun _ => rfl
    | some build => exact .inl ⟨ns, build, rfl⟩
  · exact .inr fun same => (ns same).elim

/-- The phase of the builds has one result. -/
theorem Reviews.unique (filed : c.Filed) (first : c.Reviews settings d)
    (second : c.Reviews settings d') : d' = d := by
  have builds : d'.builds = d.builds := by
    refine OrderedMap.ext_get? fun key => ?_
    obtain ⟨ns, build, stored⟩ | away := watched_or settings c key
    · rw [(first.registered key build ns stored).1, (second.registered key build ns stored).1]
    · rw [(first.others key away).1, (second.others key away).1]
  have runs : d'.runs = d.runs := by
    refine OrderedMap.ext_get? fun k => ?_
    cases kept : c.keeper k with
    | none => rw [first.unkept k kept, second.unkept k kept]
    | some key =>
      obtain ⟨ns, build, stored⟩ | away := watched_or settings c key
      · rw [← filed.builds key build stored] at kept
        obtain ⟨run, settled, rfl⟩ := filed.exists_mem_settle kept
        rw [(first.registered key build ns stored).2 run settled,
          (second.registered key build ns stored).2 run settled]
      · rw [(first.others key away).2 k kept, (second.others key away).2 k kept]
  rw [second.same, first.same, builds, runs]

/-- What is known about a build is nothing that it is checked for. -/
theorem violation?_status (c : Cluster) (build : Build) (status : BuildStatus) :
    c.violation? { build with status } = c.violation? build := by
  have each : c.verdict { build with status } = c.verdict build := by
    funext concern
    cases concern <;> rfl
  unfold violation?
  rw [each]

theorem Shares.violation?_eq (shares : c.Shares d)
    (owners : d.ownershipVerdict build = c.ownershipVerdict build) :
    d.violation? build = c.violation? build := by
  have each : d.verdict build = c.verdict build := by
    funext concern
    by_cases owner : concern = .ownerReferences
    · rw [owner]
      exact owners
    · exact shares.verdict owner build
  unfold violation?
  rw [each]

/-- Once its runs are settled, a build is stopped by the same one. -/
theorem ownershipVerdict_settled (settled : d.runsOf build = build.settle (c.runsOf build)) :
    d.ownershipVerdict build = c.ownershipVerdict build := by
  rw [ownershipVerdict_eq, ownershipVerdict_eq, settled]
  unfold Build.settle
  cases build.spec.retention.bind (·.atBuildDeletion) with
  | none => rfl
  | some retain => exact Build.blocker?_adjusted _

theorem Reviews.runsOf_eq (filed : c.Filed) (reviews : c.Reviews settings d)
    (ns : key.ns = settings.ns) (stored : c.builds.get? key = some build) :
    d.runsOf build = build.settle (c.runsOf build) := by
  have own := filed.builds key build stored
  refine OrderedMap.eq_of_sorted (f := fun run => run.metadata.key)
    ((reviews.toReviewed.filed filed).runsOf_sorted build) (filed.settle_sorted build) fun run => ?_
  constructor
  · intro member
    obtain ⟨⟨name, stored'⟩, labelled⟩ := mem_runsOf.mp member
    obtain ⟨old, present, owned⟩ := reviews.run_of stored'
    have labels : run.metadata.labels = old.metadata.labels := by
      rw [owned]
      rfl
    have kept : c.keeper ⟨_, name⟩ = some build.metadata.key :=
      keeper_iff.mpr ⟨old, present, labels ▸ labelled, rfl⟩
    obtain ⟨other, settled, here⟩ := filed.exists_mem_settle kept
    have same := (reviews.registered key build ns stored).2 other settled
    rw [here, stored'] at same
    rw [Option.some.inj same]
    exact settled
  · intro settled
    have stored' := (reviews.registered key build ns stored).2 run settled
    obtain ⟨old, present, labelled, watched⟩ := keeper_iff.mp (filed.keeper_settle settled)
    obtain ⟨old', present', owned⟩ := reviews.run_of stored'
    cases present.symm.trans present'
    have labels : run.metadata.labels = old.metadata.labels := by
      rw [owned]
      rfl
    refine mem_runsOf.mpr ⟨⟨run.metadata.name, ?_⟩, labels.symm ▸ labelled⟩
    rw [← stored']
    exact congrArg _ (congrArg (ObjectKey.mk · _) watched.symm)

/-- After the phase all builds of the watched namespace have settled. -/
theorem Reviews.settled (filed : c.Filed) (reviews : c.Reviews settings d) :
    d.Settled settings := by
  intro key checked ns stored
  obtain ⟨build, present, -⟩ := reviews.build_of stored
  cases stored.symm.trans (reviews.registered key build ns present).1
  have runs := reviews.runsOf_eq filed ns present
  constructor
  · rw [violation?_status d build, reviews.shares.violation?_eq (ownershipVerdict_settled runs)]
  · change { build with status := _ }.settle (d.runsOf build) = d.runsOf build
    rw [Build.settle_status, runs, Build.settle_settle]

theorem Settled.reviews_eq (filed : c.Filed) (settled : c.Settled settings)
    (reviews : c.Reviews settings d) : d = c := by
  have unchanged : c.Reviews settings c :=
    { Reviewed.refl c with
      registered := by
        intro key build ns stored
        obtain ⟨status, runs⟩ := settled key build ns stored
        rw [← status, runs]
        exact ⟨stored, fun run member => (filed.keeper_eq member).1⟩
      others := fun key _ => ⟨rfl, fun _ _ => rfl⟩ }
  exact unchanged.unique filed reviews

theorem Settled.of_statuses (settled : c.Settled settings)
    (same : d = { c with runs := d.runs, taskRuns := d.taskRuns })
    (runs : ∀ key, (d.runs.get? key).map BuildRun.bare = (c.runs.get? key).map BuildRun.bare) :
    d.Settled settings := by
  have metadata (build : Build) :
      (d.runsOf build).map (·.metadata) = (c.runsOf build).map (·.metadata) := by
    have bare : (d.runsOf build).map BuildRun.bare = (c.runsOf build).map BuildRun.bare := by
      have picked (c : Cluster) : (c.runsOf build).map BuildRun.bare =
          ((inNamespace build.metadata.namespaceName c.runs).map BuildRun.bare).filter
            (isRunOf build.metadata.name) := by
        rw [List.filter_map]
        rfl
      rw [picked, picked, inNamespace_map_congr runs]
    have restored := congrArg (List.map (·.metadata)) bare
    rw [List.map_map, List.map_map] at restored
    exact restored
  have shares : c.Shares d := by
    rw [Shares, same]
  have violations (build : Build) : d.violation? build = c.violation? build := by
    refine shares.violation?_eq ?_
    rw [ownershipVerdict_eq, ownershipVerdict_eq, metadata]
  intro key build ns stored
  have before : c.builds.get? key = some build := by
    rw [same] at stored
    exact stored
  obtain ⟨status, runs⟩ := settled key build ns before
  exact ⟨by rw [status, violations], Build.settle_of_metadata (metadata build) runs⟩

end Cluster

end BuildController
