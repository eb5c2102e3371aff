import BuildController.Proofs.Progression
import BuildController.Proofs.Review

/-! What the phase of the runs leaves behind, and with it a whole resync. -/
namespace BuildController

namespace Cluster

/-- What the phase of the runs makes of a control plane. Every run of the watched namespace has had
its pass, and the other runs are left alone. -/
structure Proceeds (settings : Settings) (c d : Cluster) : Prop
    extends c.Progressed settings d where
  handled : ∀ key run, key.ns = settings.ns → c.runs.get? key = some run →
    ∃ r, c.Advanced settings run r d
  others : ∀ key, key.ns ≠ settings.ns → d.runs.get? key = c.runs.get? key

/-- What passes over runs assure. -/
def progressions (settings : Settings) (c : Cluster) :
    Subject → Except PassError Unit → Cluster → Prop
  | .run key => c.Handled settings key
  | .build _ => fun _ _ => True

variable {settings : Settings} {c d u v : Cluster} {run : BuildRun} {key : ObjectKey}

theorem Advanced.mono (advanced : c.Advanced settings run r u)
    (spares : c.Spares settings run.metadata.key u v) : c.Advanced settings run r v := by
  obtain ⟨run, kept, reserved⟩ := spares
  cases advanced with
  | finished isDone stored => exact .finished isDone (run.trans stored)
  | deferred notDone unstarted waits stored =>
    exact .deferred notDone unstarted waits (run.trans stored)
  | turned notDone turns stored => exact .turned notDone (turns.mono kept) (run.trans stored)

theorem Filed.runSubjects_eq (filed : c.Filed) :
    Resync.runSubjects settings (inNamespace settings.ns c.runs) =
      ((inNamespace settings.ns c.runs).filter fun run => !run.status.isDone).map
        fun run => .run run.metadata.key := by
  refine List.map_congr_left fun run member => ?_
  rw [← ((mem_inNamespace_iff filed.runs).mp (List.mem_filter.mp member).1).1]
  rfl

theorem Filed.mem_runSubjects (filed : c.Filed) :
    .run key ∈ Resync.runSubjects settings (inNamespace settings.ns c.runs) ↔
      key.ns = settings.ns ∧ ∃ run, c.runs.get? key = some run ∧ run.status.isDone = false := by
  simp only [filed.runSubjects_eq, List.mem_map, List.mem_filter, mem_inNamespace_iff filed.runs,
    Bool.not_eq_true']
  constructor
  · rintro ⟨run, ⟨⟨ns, stored⟩, notDone⟩, same⟩
    cases same
    exact ⟨ns, run, stored, notDone⟩
  · rintro ⟨ns, run, stored, notDone⟩
    cases filed.runs key run stored
    exact ⟨run, ⟨⟨ns, stored⟩, notDone⟩, rfl⟩

theorem Filed.runSubjects_nodup (filed : c.Filed) :
    (Resync.runSubjects settings (inNamespace settings.ns c.runs)).Nodup := by
  rw [filed.runSubjects_eq]
  refine List.pairwise_map.mpr (((inNamespace_sorted filed.runs).filter _).imp ?_)
  intro run other below same
  rw [Subject.run.inj same] at below
  exact KeyOrder.irrefl _ below

theorem Filed.assures_progressions (filed : c.Filed) :
    ∀ s ∈ Resync.runSubjects settings (inNamespace settings.ns c.runs),
      (s.pass settings).Assures (c.progression settings) s (c.progressions settings s) c := by
  intro s member
  obtain ⟨run, -, rfl⟩ := List.mem_map.mp member
  exact BuildRun.assures_advance filed ⟨settings.ns, run.metadata.name⟩ rfl

/-- However the passes over runs go on side by side, this is what they leave behind. -/
theorem Filed.proceeds (filed : c.Filed)
    (completes : (Phase.ofRuns settings c).Completes settings d) : c.Proceeds settings d := by
  obtain ⟨progressed, unlisted, listed⟩ := Phase.completed filed.assures_progressions
    (Progressed.refl settings c) filed.runSubjects_nodup completes
  have left {key} (away : .run key ∉ Resync.runSubjects settings (inNamespace settings.ns c.runs)) :
      d.runs.get? key = c.runs.get? key := (unlisted (.run key) away key rfl).run
  refine { progressed with handled := fun key run ns stored => ?_, others := fun key away => ?_ }
  · have own := filed.runs key run stored
    cases done : run.status.isDone with
    | true =>
      refine ⟨.ok (), .finished done ?_⟩
      rw [own, ← stored]
      refine left fun member => ?_
      obtain ⟨-, other, stored', notDone⟩ := filed.mem_runSubjects.mp member
      cases stored.symm.trans stored'
      rw [done] at notDone
      cases notDone
    | false =>
      obtain ⟨r, u, spares, handled⟩ :=
        listed (.run key) (filed.mem_runSubjects.mpr ⟨ns, run, stored, done⟩)
      exact ⟨r, (handled run stored).mono (own ▸ spares key rfl)⟩
  · refine left fun member => ?_
    exact away (filed.mem_runSubjects.mp member).1

theorem Progressed.run_of (progressed : c.Progressed settings d)
    (stored : d.runs.get? key = some next) :
    ∃ run, c.runs.get? key = some run ∧ next = { run with status := next.status } := by
  obtain ⟨run, present, bare⟩ := exists_of_map_eq (progressed.runs key) stored
  refine ⟨run, present, ?_⟩
  exact (congrArg (fun r : BuildRun => { r with status := next.status }) bare).symm

/-- A run of the watched namespace was done, or it has to wait for its build, or it turned into what
is stored. -/
theorem Proceeds.outcome (filed : c.Filed) (proceeds : c.Proceeds settings d)
    (ns : key.ns = settings.ns) (stored : d.runs.get? key = some next) :
    ∃ run, c.runs.get? key = some run ∧
      (run.status.isDone = true ∧ next = run ∨
        run.status.isDone = false ∧
          (run.status.taskRunName = none ∧ (∃ name, c.gate run = .waits name) ∨
            c.Turns settings run d next)) := by
  obtain ⟨run, present, -⟩ := proceeds.run_of stored
  obtain ⟨r, advanced⟩ := proceeds.handled key run ns present
  rw [← filed.runs key run present] at stored
  refine ⟨run, present, ?_⟩
  cases advanced with
  | finished done stored' => exact .inl ⟨done, Option.some.inj (stored.symm.trans stored')⟩
  | deferred notDone unstarted waits => exact .inr ⟨notDone, .inl ⟨unstarted, _, waits⟩⟩
  | turned notDone turns stored' =>
    cases stored.symm.trans stored'
    exact .inr ⟨notDone, .inr turns⟩

theorem Progressed.filed (progressed : c.Progressed settings d) (filed : c.Filed) : d.Filed := by
  constructor
  · intro key build stored
    rw [progressed.same] at stored
    exact filed.builds key build stored
  · intro key next stored
    obtain ⟨run, present, turned⟩ := progressed.run_of stored
    have same : next.metadata.key = run.metadata.key := by rw [turned]
    rw [same, filed.runs key run present]

/-- A resync is a phase of the builds and one of the runs. -/
theorem Filed.resynced (filed : c.Filed) (resyncs : c.Resyncs settings d) :
    ∃ middle, c.Reviews settings middle ∧ middle.Filed ∧ middle.Proceeds settings d := by
  obtain ⟨middle, first, second⟩ := resyncs_iff.mp resyncs
  have reviews := filed.reviews first
  have filed' := reviews.toReviewed.filed filed
  exact ⟨middle, reviews, filed', filed'.proceeds second⟩

theorem Filed.resyncs (filed : c.Filed) (resyncs : c.Resyncs settings d) : d.Filed := by
  obtain ⟨middle, -, filed', proceeds⟩ := filed.resynced resyncs
  exact proceeds.toProgressed.filed filed'

theorem Filed.disciplined_builds (filed : c.Filed) : (Phase.ofBuilds settings c).Disciplined
    c.registration c.registrations c
    (Resync.buildSubjects settings (inNamespace settings.ns c.builds)) :=
  .of_start (Reviewed.refl c) filed.buildSubjects_nodup

theorem Filed.disciplined_runs (filed : c.Filed) : (Phase.ofRuns settings c).Disciplined
    (c.progression settings) (c.progressions settings) c
    (Resync.runSubjects settings (inNamespace settings.ns c.runs)) :=
  .of_start (Progressed.refl settings c) filed.runSubjects_nodup

/-- The phase of the builds can be completed, however it has begun. -/
theorem Filed.completes_builds (filed : c.Filed) (room : 1 ≤ settings.maxParallelReconciles)
    (path : (Phase.ofBuilds settings c).Path settings p) : ∃ d, p.Completes settings d := by
  have disciplined := filed.disciplined_builds.reaches filed.assures_registrations path
  exact disciplined.completes filed.assures_registrations trivial room

end Cluster

namespace Pass

/-- Runs stay under their own names whatever a pass does. -/
theorem Ends.keyed {pass : Pass α} {c d : Cluster} (ended : pass.Ends (Cluster.Meets hazards) c r d)
    (keyed : c.Keyed) : d.Keyed := by
  induction pass generalizing c with
  | done outcome =>
    obtain ⟨-, rfl⟩ := ended
    exact keyed
  | perform effect resume ih =>
    obtain ⟨answer, middle, met, rest⟩ := ended
    refine ih answer rest ?_
    obtain rfl | ⟨request, -, rfl⟩ := met.effect
    · exact keyed
    · exact Cluster.answer_keyed request keyed

end Pass

namespace Cluster

variable {settings : Settings} {c : Cluster}

/-- A pass over a run can always come to an end. If its task run gets a random name, there is one
that is free. -/
theorem Keyed.exists_ends (keyed : c.Keyed) (key : ObjectKey) :
    ∃ r d, (BuildRun.advance settings key.ns key.name).Ends (Meets .calm) c r d := by
  cases stored : c.runs.get? key with
  | some run =>
    have own := keyed key run stored
    subst own
    obtain ⟨r, d, advances⟩ := exists_advances settings c run
    exact ⟨r, d, (BuildRun.advance_calm_iff stored).mpr advances⟩
  | none =>
    refine ⟨.ok (), c, ?_⟩
    refine (Pass.reads_send rfl).ends_bind ?_
    rw [stored]
    exact Pass.ends_pure.mpr ⟨rfl, rfl⟩

/-- Every resync can be completed. -/
theorem Filed.exists_resyncs (filed : c.Filed) (room : 1 ≤ settings.maxParallelReconciles) :
    ∃ d, c.Resyncs settings d := by
  obtain ⟨middle, first⟩ := filed.completes_builds room .refl
  have keyed := ((filed.reviews first).toReviewed.filed filed).runs
  obtain ⟨d, second, -⟩ := Phase.exists_completes room
    (Resync.runSubjects settings (inNamespace settings.ns middle.runs)) keyed
    fun c keyed subject member => by
      obtain ⟨run, -, rfl⟩ := List.mem_map.mp member
      obtain ⟨r, d, ended⟩ := keyed.exists_ends ⟨settings.ns, run.metadata.name⟩
      exact ⟨r, d, ended, ended.keyed keyed⟩
  exact ⟨d, resyncs_iff.mpr ⟨middle, first, second⟩⟩

end Cluster

end BuildController
