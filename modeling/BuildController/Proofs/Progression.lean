import BuildController.Proofs.Launching

/-! What a pass over a run assures in the phase of the runs, whatever passes over other runs do
beside it: it settles what the gate said when the phase began, or it takes over what the task run of
the run reports. -/
namespace BuildController

namespace Cluster

/-- What becomes of a run that is not done, in the control plane `v`. -/
inductive Turns (settings : Settings) (c : Cluster) (run : BuildRun) (v : Cluster) :
    BuildRun → Prop
  | started (unstarted : run.status.taskRunName = none)
      (admits : c.gate run = .admits (build, strategy)) (names : run.Names name)
      (present : run.Derives →
        (v.taskRuns.get? ⟨run.metadata.namespaceName, name⟩).isSome) (now : Readings) :
      Turns settings c run v (run.started now name)
  | failed {failure : RunFailure} (unstarted : run.status.taskRunName = none)
      (fails : c.gate run = .fails failure) (now : Readings) :
      Turns settings c run v (run.failed now failure)
  | lost (recorded : run.status.taskRunName = some name)
      (missing : c.taskRuns.get? ⟨run.metadata.namespaceName, name⟩ = none) (now : Readings) :
      Turns settings c run v (run.failed now (.taskRunMissing name))
  | observed (recorded : run.status.taskRunName = some name)
      (found : v.taskRuns.get? ⟨run.metadata.namespaceName, name⟩ = some taskRun)
      (now : Readings) : Turns settings c run v (Observation.observe now run taskRun)

/-- What a pass over a stored run leaves behind, in a phase that began at `c`. -/
inductive Advanced (settings : Settings) (c : Cluster) (run : BuildRun) :
    Except PassError Unit → Cluster → Prop
  | finished (isDone : run.status.isDone = true)
      (stored : v.runs.get? run.metadata.key = some run) : Advanced settings c run (.ok ()) v
  | deferred (notDone : run.status.isDone = false) (unstarted : run.status.taskRunName = none)
      (waits : c.gate run = .waits name) (stored : v.runs.get? run.metadata.key = some run) :
      Advanced settings c run (.error (.notRegistered name)) v
  | turned (notDone : run.status.isDone = false) (turns : c.Turns settings run v next)
      (stored : v.runs.get? run.metadata.key = some next) : Advanced settings c run (.ok ()) v

/-- What a pass over the run under the key leaves behind, in a phase that began at `c`. -/
def Handled (settings : Settings) (c : Cluster) (key : ObjectKey) (r : Except PassError Unit)
    (v : Cluster) : Prop :=
  ∀ run, c.runs.get? key = some run → c.Advanced settings run r v

variable {settings : Settings} {c u v : Cluster} {run : BuildRun} {key : ObjectKey}

/-- Task runs that come later change nothing of it. -/
theorem Turns.mono (turns : c.Turns settings run u next)
    (kept : ∀ name taskRun, u.taskRuns.get? name = some taskRun →
      v.taskRuns.get? name = some taskRun) : c.Turns settings run v next := by
  cases turns with
  | started unstarted admits names present now =>
    refine .started unstarted admits names (fun derives => ?_) now
    obtain ⟨taskRun, stored⟩ := Option.isSome_iff_exists.mp (present derives)
    rw [kept _ taskRun stored]
    rfl
  | failed unstarted fails now => exact .failed unstarted fails now
  | lost recorded missing now => exact .lost recorded missing now
  | observed recorded found now => exact .observed recorded (kept _ _ found) now

theorem Turns.eq (turns : c.Turns settings run v next) :
    next = { run with status := next.status } := by
  cases turns with
  | started | failed | lost => rfl
  | observed => exact Observation.observe_eq _ _ _

theorem Turns.of_unstarted (turns : c.Turns settings run v next)
    (unstarted : run.status.taskRunName = none) :
    (∃ build strategy name now, c.gate run = .admits (build, strategy) ∧ run.Names name ∧
      (run.Derives → (v.taskRuns.get? ⟨run.metadata.namespaceName, name⟩).isSome) ∧
      next = run.started now name) ∨
      ∃ failure now, c.gate run = .fails failure ∧ next = run.failed now failure := by
  cases turns with
  | started _ admits names present now => exact .inl ⟨_, _, _, now, admits, names, present, rfl⟩
  | failed _ fails now => exact .inr ⟨_, now, fails, rfl⟩
  | lost recorded | observed recorded =>
    rw [unstarted] at recorded
    cases recorded

/-- A task run that a run comes to record has a name of the run. -/
theorem Turns.names (turns : c.Turns settings run v next)
    (recorded : next.status.taskRunName = some name) :
    run.status.taskRunName = some name ∨ run.Names name := by
  cases turns with
  | started _ _ names =>
    cases recorded
    exact .inr names
  | failed unstarted =>
    cases unstarted.symm.trans recorded
  | lost => exact .inl recorded
  | observed _ _ now =>
    exact .inl ((Observation.observe_taskRunName now run _).symm.trans recorded)

theorem Turns.of_recorded (turns : c.Turns settings run v next)
    (recorded : run.status.taskRunName = some name) :
    (c.taskRuns.get? ⟨run.metadata.namespaceName, name⟩ = none ∧
      ∃ now, next = run.failed now (.taskRunMissing name)) ∨
      ∃ taskRun now, v.taskRuns.get? ⟨run.metadata.namespaceName, name⟩ = some taskRun ∧
        next = Observation.observe now run taskRun := by
  cases turns with
  | started unstarted | failed unstarted =>
    rw [unstarted] at recorded
    cases recorded
  | lost recorded' missing now =>
    cases recorded.symm.trans recorded'
    exact .inl ⟨missing, now, rfl⟩
  | observed recorded' found now =>
    cases recorded.symm.trans recorded'
    exact .inr ⟨_, now, found, rfl⟩

theorem Advanced.names (advanced : c.Advanced settings run r v)
    (stored : v.runs.get? run.metadata.key = some next)
    (recorded : next.status.taskRunName = some name) :
    run.status.taskRunName = some name ∨ run.Names name := by
  cases advanced with
  | finished _ stored' | deferred _ _ _ stored' =>
    cases stored'.symm.trans stored
    exact .inl recorded
  | turned _ turns stored' =>
    cases stored'.symm.trans stored
    exact turns.names recorded

end Cluster

open Pass

namespace BuildRun

variable {settings : Settings} {c u : Cluster} {run : BuildRun} {key : ObjectKey}

section Pieces

variable (progressed : c.Progressed settings u)

include progressed

theorem assures_resolve :
    run.resolve.Assures (c.progression settings) (.run key)
      (fun r v => r = (c.gate run).resolution ∧ (c.progression settings).Follows (.run key) u v)
      u := by
  have reads : run.resolve.Reads u (u.gate run).resolution := reads_resolve
  rw [progressed.gate] at reads
  exact reads.assures ((only_resolve run).mono fun _ inquires =>
    Cluster.steady_of_inquires inquires.inquires) progressed

theorem assures_taskRunName :
    run.taskRunName.Assures (c.progression settings) (.run key)
      (fun r v => (∃ name, run.Names name ∧ r = .ok name) ∧
        (c.progression settings).Follows (.run key) u v) u := by
  unfold taskRunName Names
  cases TaskRunPlan.nameSuffix? run.metadata.uid with
  | some suffix => exact assures_pure ⟨⟨_, rfl, rfl⟩, .refl progressed⟩
  | none =>
    have drawn : randomSuffix.Assures (c.progression settings) (.run key)
        (fun r v => (∃ suffix, r = .ok suffix) ∧
          (c.progression settings).Follows (.run key) u v) u :=
      assures_randomSuffix ⟨key, rfl, .randomSuffix⟩ fun suffix v follows =>
        ⟨⟨suffix, rfl⟩, follows⟩
    refine assures_bind drawn (fun suffix v after => ?_) fun error v failed => ?_
    · exact assures_pure ⟨⟨_, ⟨suffix, rfl⟩, rfl⟩, after.2⟩
    · obtain ⟨⟨_, impossible⟩, _⟩ := failed
      cases impossible

end Pieces

theorem assures_getTaskRun : (send (.getTaskRun ns name)).Assures (c.progression settings)
    (.run key) (fun r v => r = .ok (v.taskRuns.get? ⟨ns, name⟩) ∧
      (c.progression settings).Follows (.run key) u v) u := by
  refine assures_send ⟨key, rfl, .looksUp⟩ (fun v _ _ => ⟨_, v, rfl⟩) ?_
  intro v follows value d answered _
  cases answered
  exact ⟨rfl, follows⟩

section Start

variable (watched : key.ns = settings.ns) (stored : c.runs.get? key = some run)
  (notDone : run.status.isDone = false) (unstarted : run.status.taskRunName = none)

include watched stored notDone unstarted

/-- If names are derived, the name of the task run is free when it is to be created. -/
theorem assures_createTaskRun (progressed : c.Progressed settings u)
    (admits : c.gate run = .admits (build, strategy)) (names : run.Names name)
    (absent : u.taskRuns.get? ⟨run.metadata.namespaceName, name⟩ = none) :
    (do Pass.send (.createTaskRun (TaskRun.plan settings (← run.taskRunName) build run
      strategy.spec)) : Pass Unit).Assures (c.progression settings) (.run key)
      (fun r v => r = .ok () ∧ c.Progressed settings v ∧ v.runs.get? key = u.runs.get? key ∧
        (run.Derives → (v.taskRuns.get? ⟨run.metadata.namespaceName, name⟩).isSome)) u := by
  refine assures_bind (assures_taskRunName progressed) (fun fresh v after => ?_)
    fun error v failed => ?_
  · obtain ⟨⟨_, fresh, same⟩, before⟩ := after
    cases same
    have launches : c.Launches settings key _ :=
      .intro watched stored notDone unstarted admits fresh
    refine assures_send ⟨key, rfl, .creates launches⟩ (fun x later live => ?_) ?_
    · have derives := live.2 key run _ stored launches
      cases names.unique derives fresh
      have reserved := launches.reserved live.1 live.2
      refine ⟨(), _, Cluster.answer_createTaskRun.mpr ⟨?_, rfl⟩⟩
      exact (((before.trans later).spares key rfl).reserved _ reserved).trans absent
    · intro x later value d answered sound
      obtain ⟨free, rfl⟩ := Cluster.answer_createTaskRun.mp answered
      refine ⟨rfl, sound, ((before.trans later).spares key rfl).run, fun derives => ?_⟩
      cases names.unique derives fresh
      exact Option.isSome_iff_exists.mpr ⟨_, OrderedMap.get?_insert_self _ _ _⟩
  · obtain ⟨⟨_, _, impossible⟩, _⟩ := failed
    cases impossible

theorem assures_ensureTaskRun (admits : c.gate run = .admits (build, strategy))
    (names : run.Names name) :
    (run.ensureTaskRun settings name build strategy).Assures (c.progression settings) (.run key)
      (fun r v => r = .ok () ∧ c.Progressed settings v ∧ v.runs.get? key = u.runs.get? key ∧
        (run.Derives → (v.taskRuns.get? ⟨run.metadata.namespaceName, name⟩).isSome)) u := by
  refine assures_bind assures_getTaskRun (fun found v after => ?_)
    fun error v failed => nomatch failed.1
  obtain ⟨same, follows⟩ := after
  have kept := (follows.spares key rfl).run
  cases same
  cases present : v.taskRuns.get? ⟨run.metadata.namespaceName, name⟩ with
  | some taskRun =>
    refine assures_pure ⟨rfl, follows.sound, kept, fun _ => ?_⟩
    rw [present]
    rfl
  | none =>
    refine (assures_createTaskRun watched stored notDone unstarted follows.sound admits names
      present).mono ?_
    rintro r w ⟨ended, sound, same, there⟩
    exact ⟨ended, sound, same.trans kept, there⟩

end Start

/-- How a pass over a run that is not done goes on to the write of what the run becomes. -/
def Decided (settings : Settings) (c : Cluster) (key : ObjectKey) (run : BuildRun)
    (r : Except PassError BuildRun) (v : Cluster) : Prop :=
  c.Progressed settings v ∧ v.runs.get? key = some run ∧
    ((∃ next, r = .ok next ∧ c.Turns settings run v next) ∨
      run.status.taskRunName = none ∧
        ∃ name, c.gate run = .waits name ∧ r = .error (.notRegistered name))

theorem assures_stamped {read : Pass Readings} (reads : read.ReadsClock) {f : Readings → BuildRun}
    (kept : u.runs.get? key = some run)
    (turns : ∀ now v, (c.progression settings).Follows (.run key) u v →
      c.Turns settings run v (f now)) :
    (do return f (← read)).Assures (c.progression settings) (.run key)
      (Decided settings c key run) u := by
  have ticked : read.Assures (c.progression settings) (.run key)
      (fun r v => (∃ now, r = .ok now) ∧ (c.progression settings).Follows (.run key) u v) u :=
    reads.assures ⟨key, rfl, .clock⟩ fun now v follows => ⟨⟨now, rfl⟩, follows⟩
  refine assures_bind ticked (fun now v after => ?_) fun error v failed => ?_
  · have still := ((after.2.spares key rfl).run).trans kept
    exact assures_pure ⟨after.2.sound, still, .inl ⟨_, rfl, turns now v after.2⟩⟩
  · obtain ⟨⟨_, impossible⟩, _⟩ := failed
    cases impossible

theorem assures_launch (watched : key.ns = settings.ns) (stored : c.runs.get? key = some run)
    (notDone : run.status.isDone = false) (unstarted : run.status.taskRunName = none)
    (admits : c.gate run = .admits (build, strategy)) (progressed : c.Progressed settings u)
    (kept : u.runs.get? key = some run) :
    (do
      Pass.checkpoint
      let name ← run.taskRunName
      run.ensureTaskRun settings name build strategy
      return run.started (← Pass.readStart) name).Assures (c.progression settings) (.run key)
      (Decided settings c key run) u := by
  have checked : checkpoint.Assures (c.progression settings) (.run key)
      (fun r v => r = .ok () ∧ (c.progression settings).Follows (.run key) u v) u :=
    reads_checkpoint.assures (only_checkpoint (Cluster.steady_of_inquires (.inl trivial)))
      progressed
  refine assures_bind checked (fun _ v after => ?_) fun error v failed => nomatch failed.1
  refine assures_bind (assures_taskRunName after.2.sound) (fun name w after' => ?_)
    fun error v failed => ?_
  · obtain ⟨⟨_, names, same⟩, later⟩ := after'
    cases same
    have still := (((after.2.trans later).spares key rfl).run).trans kept
    refine assures_bind (assures_ensureTaskRun watched stored notDone unstarted admits names)
      (fun _ x after => ?_) fun error x failed => nomatch failed.1
    obtain ⟨-, sound, same, there⟩ := after
    refine assures_stamped .atStart (same.trans still) fun now y follows => ?_
    have turns : c.Turns settings run x (run.started now name) :=
      .started unstarted admits names there now
    exact turns.mono (follows.spares key rfl).kept
  · obtain ⟨⟨_, _, impossible⟩, _⟩ := failed
    cases impossible

theorem assures_start (watched : key.ns = settings.ns) (stored : c.runs.get? key = some run)
    (notDone : run.status.isDone = false) (unstarted : run.status.taskRunName = none)
    (progressed : c.Progressed settings u) (kept : u.runs.get? key = some run) :
    (run.start settings).Assures (c.progression settings) (.run key)
      (Decided settings c key run) u := by
  refine assures_bind (assures_resolve progressed) (fun found v after => ?_)
    fun error v failed => ?_
  · obtain ⟨resolved, follows⟩ := after
    have still := ((follows.spares key rfl).run).trans kept
    cases judged : c.gate run with
    | admits value =>
      rw [judged] at resolved
      cases resolved
      exact assures_launch watched stored notDone unstarted judged follows.sound still
    | waits name =>
      rw [judged] at resolved
      cases resolved
    | fails failure =>
      rw [judged] at resolved
      cases resolved
      exact assures_stamped .atEnd still fun now w _ => .failed unstarted judged now
  · obtain ⟨resolved, follows⟩ := failed
    have still := ((follows.spares key rfl).run).trans kept
    cases judged : c.gate run with
    | admits value | fails failure =>
      rw [judged] at resolved
      cases resolved
    | waits name =>
      rw [judged] at resolved
      cases resolved
      exact ⟨follows.sound, still, .inr ⟨unstarted, name, judged, rfl⟩⟩

theorem assures_follow (recorded : run.status.taskRunName = some name)
    (kept : u.runs.get? key = some run) :
    (run.follow name).Assures (c.progression settings) (.run key)
      (Decided settings c key run) u := by
  refine assures_bind assures_getTaskRun (fun found v after => ?_)
    fun error v failed => nomatch failed.1
  obtain ⟨same, follows⟩ := after
  have still := ((follows.spares key rfl).run).trans kept
  cases same
  cases present : v.taskRuns.get? ⟨run.metadata.namespaceName, name⟩ with
  | none =>
    have missing : c.taskRuns.get? ⟨run.metadata.namespaceName, name⟩ = none := by
      refine Option.eq_none_iff_forall_ne_some.mpr fun taskRun stored => ?_
      rw [follows.sound.kept _ taskRun stored] at present
      cases present
    exact assures_stamped .atEnd still fun now w _ => .lost recorded missing now
  | some taskRun =>
    refine assures_stamped .atEnd still fun now w follows => .observed recorded ?_ now
    exact (follows.spares key rfl).kept _ _ present

theorem assures_next (watched : key.ns = settings.ns) (stored : c.runs.get? key = some run)
    (notDone : run.status.isDone = false) (progressed : c.Progressed settings u)
    (kept : u.runs.get? key = some run) :
    (run.next settings).Assures (c.progression settings) (.run key)
      (Decided settings c key run) u := by
  unfold next
  cases recorded : run.status.taskRunName with
  | none => exact assures_start watched stored notDone recorded progressed kept
  | some name => exact assures_follow recorded kept

/-- What a run that is not done turns into is stored as such. -/
theorem assures_turned {next : BuildRun} (own : run.metadata.key = key)
    (stored : c.runs.get? key = some run) (notDone : run.status.isDone = false)
    (turns : c.Turns settings run u next) :
    (send (.updateRunStatus next)).Assures (c.progression settings) (.run key)
      (c.Handled settings key) u := by
  subst own
  have status := turns.eq
  rw [status]
  refine assures_send ⟨_, rfl, .writes stored rfl⟩ (fun v follows _ => ?_)
    fun v follows value d answered _ => ?_
  · exact ⟨(), _, follows.sound.answer_updateRunStatus stored⟩
  · rw [follows.sound.answer_updateRunStatus stored] at answered
    cases answered
    intro other same
    cases stored.symm.trans same
    have later : c.Turns settings run v { run with status := next.status } :=
      status ▸ turns.mono (follows.spares _ rfl).kept
    exact .turned notDone (later.mono fun _ _ held => held) (OrderedMap.get?_insert_self _ _ _)

/-- A pass over a run assures what becomes of the run, whatever passes over other runs do. -/
theorem assures_advance (filed : c.Filed) (key : ObjectKey) (watched : key.ns = settings.ns) :
    (advance settings key.ns key.name).Assures (c.progression settings) (.run key)
      (c.Handled settings key) c := by
  have found : (send (.getRun key.ns key.name)).Assures (c.progression settings) (.run key)
      (fun r v => r = .ok (c.runs.get? key) ∧ (c.progression settings).Follows (.run key) c v)
      c := by
    refine assures_send ⟨key, rfl, .reads⟩ (fun v _ _ => ⟨_, v, rfl⟩) ?_
    intro v follows value d answered _
    cases answered
    exact ⟨congrArg Except.ok (follows.spares key rfl).run, follows⟩
  rw [advance_eq]
  refine assures_bind found (fun read v after => ?_) fun error v failed => nomatch failed.1
  obtain ⟨same, follows⟩ := after
  cases same
  cases stored : c.runs.get? key with
  | none =>
    refine assures_pure fun run impossible => ?_
    rw [stored] at impossible
    cases impossible
  | some run =>
    have own := filed.runs key run stored
    have kept := ((follows.spares key rfl).run).trans stored
    dsimp only
    cases done : run.status.isDone with
    | true =>
      rw [if_pos rfl]
      refine assures_pure fun other same => ?_
      cases stored.symm.trans same
      exact .finished done (own ▸ kept)
    | false =>
      rw [if_neg (by simp)]
      refine assures_bind (assures_next watched stored done follows.sound kept)
        (fun next w after => ?_) fun error w failed => ?_
      · obtain ⟨sound, -, ⟨_, same, turns⟩ | ⟨_, _, _, impossible⟩⟩ := after
        · cases same
          exact assures_turned own stored done turns
        · cases impossible
      · obtain ⟨-, still, ⟨_, impossible, _⟩ | ⟨unstarted, name, waits, same⟩⟩ := failed
        · cases impossible
        · cases same
          intro other same
          cases stored.symm.trans same
          exact .deferred done unstarted waits (own ▸ still)

end BuildRun

end BuildController
