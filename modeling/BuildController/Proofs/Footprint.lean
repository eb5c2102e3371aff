import BuildController.Proofs.Leftovers
import BuildController.Proofs.Lifecycle
import BuildController.Proofs.Updates

/-! The footprint of a pass. With a memory beside the control plane, it can be told what a pass
wrote and when. A pass that succeeds and has something to do writes one status, that of its subject,
and this is the last thing that it does. However a pass ends, it leaves alone whatever is not its
subject, apart from one new task run for a run and from the owners of the runs of a build. -/
namespace BuildController

/-- How effects go if it is remembered what was done and answered. -/
def Handling.recorded (handling : Handling σ) : Handling (σ × Memory)
  | before, effect, answer, after =>
    handling before.1 effect answer after.1 ∧ after.2 = ⟨effect, answer⟩ :: before.2

/-- The effect asks the control plane for a change. -/
def Effect.Writes (effect : Effect) : Prop :=
  ∃ request : Request, effect = .send request ∧ request.write?.isSome

/-- The latest event is a status of the subject that was written, and no status was written
earlier. -/
inductive Memory.Concludes : Subject → Memory → Prop
  | build {build : Build} (own : build.metadata.key = key)
      (mute : ∀ event ∈ earlier, event.1.Mute) :
      Concludes (.build key) (⟨.send (.updateBuildStatus build), .ok ()⟩ :: earlier)
  | run {run : BuildRun} (own : run.metadata.key = key)
      (mute : ∀ event ∈ earlier, event.1.Mute) :
      Concludes (.run key) (⟨.send (.updateRunStatus run), .ok ()⟩ :: earlier)

/-- There is nothing to do: the build or the run is gone, or the run is done. -/
def Subject.Idle (c : Cluster) : Subject → Prop
  | build key => c.builds.get? key = none
  | run key => ∀ run, c.runs.get? key = some run → run.status.isDone = true

/-- What a pass over the build under the key can change: the status of the build, and the owners of
the runs in its namespace that are labelled with its name. -/
structure Build.Footprint (key : ObjectKey) (c d : Cluster) : Prop where
  same : d = { c with builds := d.builds, runs := d.runs }
  own : (d.builds.get? key).map Build.bare = (c.builds.get? key).map Build.bare
  others : ∀ other ≠ key, d.builds.get? other = c.builds.get? other
  runs : ∀ k, d.runs.get? k = c.runs.get? k ∨ ∃ run references, c.runs.get? k = some run ∧
    k.ns = key.ns ∧ run.metadata.labels.get? buildLabel = some key.name ∧
    d.runs.get? k = some (run.withOwners references)

/-- What a pass over the run under the key can change: the status of the run, and there can be one
more task run. -/
structure BuildRun.Footprint (key : ObjectKey) (c d : Cluster) : Prop where
  same : d = { c with runs := d.runs, taskRuns := d.taskRuns }
  own : (d.runs.get? key).map BuildRun.bare = (c.runs.get? key).map BuildRun.bare
  others : ∀ other ≠ key, d.runs.get? other = c.runs.get? other
  taskRuns : d.taskRuns = c.taskRuns ∨ ∃ taskRun, c.taskRuns.get? taskRun.metadata.key = none ∧
    d.taskRuns = c.taskRuns.insert taskRun.metadata.key taskRun

def Subject.Footprint : Subject → Cluster → Cluster → Prop
  | build key => Build.Footprint key
  | run key => BuildRun.Footprint key

namespace Pass

variable {handling : Handling σ} {pass : Pass α} {log log' : Memory}

/-- To remember what a pass does changes nothing. -/
theorem ends_iff_recorded (log : Memory) : pass.Ends handling s r t ↔
    ∃ log', pass.Ends handling.recorded (s, log) r (t, log') := by
  constructor
  · intro ended
    induction pass generalizing s log with
    | done outcome =>
      obtain ⟨rfl, rfl⟩ := ended
      exact ⟨log, rfl, rfl⟩
    | perform effect resume ih =>
      obtain ⟨answer, middle, handled, rest⟩ := ended
      obtain ⟨log', later⟩ := ih answer (⟨effect, answer⟩ :: log) rest
      exact ⟨log', answer, (middle, _), ⟨handled, rfl⟩, later⟩
  · rintro ⟨log', ended⟩
    exact ended.part Prod.fst fun _ _ _ _ handled => handled.1

/-- A pass that performs only some effects remembers no other ones besides the earlier ones. -/
theorem Keeps.recorded {post : α → Prop} (keeps : pass.Keeps allowed post)
    (ended : pass.Ends handling.recorded (s, log) (.ok value) (t, log'))
    (earlier : ∀ event ∈ log, allowed event.1) :
    post value ∧ ∀ event ∈ log', allowed event.1 := by
  induction pass generalizing s log with
  | done outcome =>
    obtain ⟨rfl, same⟩ := ended
    cases same
    exact ⟨keeps, earlier⟩
  | perform effect resume ih =>
    obtain ⟨answer, ⟨middle, _⟩, ⟨-, rfl⟩, rest⟩ := ended
    exact ih answer (keeps.2 answer) rest (List.forall_mem_cons.mpr ⟨keeps.1, earlier⟩)

/-- A request that succeeds is the latest event. -/
theorem ends_send_recorded {request : Request} {value : request.Answer} :
    (send request).Ends handling.recorded (s, log) (.ok value) (t, log') ↔
      handling s (.send request) (.ok value) t ∧ log' = ⟨.send request, .ok value⟩ :: log := by
  rw [ends_send]
  constructor
  · rintro (⟨_, handled, same⟩ | ⟨_, -, impossible⟩)
    · cases same
      exact handled
    · cases impossible
  · exact fun handled => .inl ⟨value, handled, rfl⟩

end Pass

open Pass

variable {hazards : Hazards} {c d u : Cluster} {log : Memory} {key : ObjectKey}

theorem not_writes_of_read {request : Request} {answer : (Effect.send request).Answer}
    (reads : request.write? = none) :
    ∀ event ∈ ([⟨.send request, answer⟩] : Memory), ¬event.1.Writes := by
  rintro _ member ⟨_, same, writes⟩
  cases List.mem_singleton.mp member
  cases same
  rw [reads] at writes
  cases writes

namespace Build

/-- A pass over a build that succeeds has found none, or it has written the status of the build at
its end. -/
theorem register_recorded (filed : c.Filed)
    (ended : (register key.ns key.name).Ends (Cluster.Meets hazards).recorded (c, []) (.ok ())
      (d, log)) :
    (c.builds.get? key = none ∧ ∀ event ∈ log, ¬event.1.Writes) ∨
      (∃ build, c.builds.get? key = some build) ∧ log.Concludes (.build key) := by
  obtain ⟨found, ⟨_, _⟩, looked, rest⟩ := ends_bind_ok.mp ended
  obtain ⟨met, rfl⟩ := ends_send_recorded.mp looked
  cases met.answer_ok
  cases stored : c.builds.get? key with
  | none =>
    rw [stored] at rest
    cases (ends_pure.mp rest).2
    exact .inl ⟨rfl, not_writes_of_read rfl⟩
  | some build =>
    rw [stored] at rest
    obtain ⟨violation?, ⟨_, _⟩, checked, written⟩ := ends_bind_ok.mp rest
    obtain ⟨-, rfl⟩ := ends_send_recorded.mp written
    obtain ⟨-, mute⟩ := (Concern.mute_firstViolation? build Concern.ofBuild).recorded checked
      (List.forall_mem_singleton.mpr trivial)
    exact .inr ⟨⟨build, rfl⟩, .build (filed.builds key build stored) mute⟩

end Build

namespace BuildRun

/-- A pass over a run that succeeds has found nothing to do, or it has written the status of the run
at its end. -/
theorem advance_recorded (filed : c.Filed)
    (ended : (advance settings key.ns key.name).Ends (Cluster.Meets hazards).recorded (c, [])
      (.ok ()) (d, log)) :
    ((∀ run, c.runs.get? key = some run → run.status.isDone = true) ∧
        ∀ event ∈ log, ¬event.1.Writes) ∨
      (∃ run, c.runs.get? key = some run ∧ run.status.isDone = false) ∧
        log.Concludes (.run key) := by
  rw [advance_eq] at ended
  obtain ⟨found, ⟨_, _⟩, looked, rest⟩ := ends_bind_ok.mp ended
  obtain ⟨met, rfl⟩ := ends_send_recorded.mp looked
  cases met.answer_ok
  cases stored : c.runs.get? key with
  | none =>
    rw [stored] at rest
    cases (ends_pure.mp rest).2
    refine .inl ⟨?_, not_writes_of_read rfl⟩
    rintro _ ⟨⟩
  | some run =>
    rw [stored] at rest
    dsimp only at rest
    split at rest
    · next done =>
      cases (ends_pure.mp rest).2
      refine .inl ⟨?_, not_writes_of_read rfl⟩
      rintro _ ⟨⟩
      exact done
    · next notDone =>
      obtain ⟨next, ⟨_, _⟩, decided, written⟩ := ends_bind_ok.mp rest
      obtain ⟨-, rfl⟩ := ends_send_recorded.mp written
      obtain ⟨becomes, mute⟩ := (keeps_next settings run).recorded decided
        (List.forall_mem_singleton.mpr trivial)
      have own : next.metadata.key = key := by
        rw [becomes.metadata]
        exact filed.runs key run stored
      exact .inr ⟨⟨run, rfl, by simpa using notDone⟩, .run own mute⟩

end BuildRun

namespace Cluster

/-- Of several runs that are stored one after the other, some one is under each name, or none of
them is. -/
theorem get?_withRuns (c : Cluster) (runs : List BuildRun) (k : ObjectKey) :
    (c.withRuns runs).runs.get? k = c.runs.get? k ∨
      ∃ run ∈ runs, run.metadata.key = k ∧ (c.withRuns runs).runs.get? k = some run := by
  induction runs generalizing c with
  | nil => exact .inl rfl
  | cons run rest ih =>
    rw [withRuns_cons]
    obtain same | ⟨later, member, own, stored⟩ := ih (c.withRun run)
    · rw [same, withRun, OrderedMap.get?_insert]
      by_cases here : k = run.metadata.key
      · exact .inr ⟨run, List.mem_cons_self, here.symm, if_pos here⟩
      · exact .inl (if_neg here)
    · exact .inr ⟨later, List.mem_cons_of_mem _ member, own, stored⟩

/-- The runs that a build makes of its runs are stored runs that are labelled with its name, with
other owners. -/
theorem Filed.settle_owned (filed : c.Filed) {build : Build} {next : BuildRun}
    (member : next ∈ build.settle (c.runsOf build)) : ∃ run references,
      c.runs.get? next.metadata.key = some run ∧
        next.metadata.key.ns = build.metadata.namespaceName ∧
        run.metadata.labels.get? buildLabel = some build.metadata.name ∧
        next = run.withOwners references := by
  obtain ⟨run, listed, references, rfl⟩ :=
    exists_of_mem_forall₂ (build.forall₂_settle (c.runsOf build)) member
  obtain ⟨⟨name, stored⟩, labelled⟩ := mem_runsOf.mp listed
  have own : (run.withOwners references).metadata.key = _ := filed.runs _ run stored
  rw [own]
  exact ⟨run, references, stored, rfl, labelled, rfl⟩

/-- The adjustment of any of its runs is within the footprint of a build. -/
theorem footprint_withRuns (filed : c.Filed) {build : Build} {runs : List BuildRun}
    (settled : ∀ run ∈ runs, run ∈ build.settle (c.runsOf build)) :
    Build.Footprint build.metadata.key c (c.withRuns runs) where
  same := by
    conv => lhs; rw [withRuns_same]
    rw [withRuns_builds]
  own := by rw [withRuns_builds]
  others _ _ := by rw [withRuns_builds]
  runs k := by
    obtain same | ⟨next, member, rfl, written⟩ := c.get?_withRuns runs k
    · exact .inl same
    · obtain ⟨run, references, present, ns, labelled, rfl⟩ :=
        filed.settle_owned (settled next member)
      exact .inr ⟨run, references, present, ns, labelled, written⟩

end Cluster

namespace Build

theorem Footprint.refl (key : ObjectKey) (c : Cluster) : Footprint key c c :=
  ⟨rfl, rfl, fun _ _ => rfl, fun _ => .inl rfl⟩

/-- To write the status of the build as well stays within its footprint. -/
theorem Footprint.withBuild {build : Build} (footprint : Footprint build.metadata.key c d)
    (stored : c.builds.get? build.metadata.key = some build) (status : BuildStatus) :
    Footprint build.metadata.key c (d.withBuild { build with status }) where
  same := by
    rw [footprint.same]
    rfl
  own := by
    have written : (d.withBuild { build with status }).builds.get? build.metadata.key =
        some { build with status } := OrderedMap.get?_insert_self _ _ _
    rw [stored, written]
    rfl
  others other different :=
    (OrderedMap.get?_insert_of_ne _ _ different).trans (footprint.others other different)
  runs := footprint.runs

theorem register_footprint (filed : c.Filed)
    (ended : (register key.ns key.name).Ends (Cluster.Meets hazards) c r d) :
    Footprint key c d := by
  cases stored : c.builds.get? key with
  | none =>
    rw [register_missing stored ended]
    exact .refl key c
  | some build =>
    have own := filed.builds key build stored
    subst own
    have settled : Footprint build.metadata.key c
        (c.withRuns (build.settle (c.runsOf build))) :=
      Cluster.footprint_withRuns filed fun _ => id
    cases register_only filed stored ended with
    | written => exact settled.withBuild stored _
    | lost => exact settled.withBuild stored _
    | aborted _ n =>
      exact Cluster.footprint_withRuns filed fun _ => List.mem_of_mem_take

end Build

namespace BuildRun

theorem Footprint.refl (key : ObjectKey) (c : Cluster) : Footprint key c c :=
  ⟨rfl, rfl, fun _ _ => rfl, .inl rfl⟩

/-- To write the status of the run as well stays within its footprint. -/
theorem Footprint.withRun {run : BuildRun} (footprint : Footprint run.metadata.key c d)
    (stored : c.runs.get? run.metadata.key = some run) (status : RunStatus) :
    Footprint run.metadata.key c (d.withRun { run with status }) where
  same := by
    rw [footprint.same]
    rfl
  own := by
    have written : (d.withRun { run with status }).runs.get? run.metadata.key =
        some { run with status } := OrderedMap.get?_insert_self _ _ _
    rw [stored, written]
    rfl
  others other different :=
    (OrderedMap.get?_insert_of_ne _ _ different).trans (footprint.others other different)
  taskRuns := footprint.taskRuns

theorem footprint_withTaskRun {taskRun : TaskRun} (key : ObjectKey)
    (free : c.taskRuns.get? taskRun.metadata.key = none) :
    Footprint key c (c.withTaskRun taskRun) :=
  ⟨rfl, rfl, fun _ _ => rfl, .inr ⟨taskRun, free, rfl⟩⟩

theorem footprint_of_prepares {run : BuildRun} (prepares : c.Prepares settings run name d)
    (key : ObjectKey) : Footprint key c d := by
  obtain ⟨-, build, strategy, -, -, ensures⟩ := prepares
  cases ensures with
  | found => exact .refl key c
  | created _ _ free => exact footprint_withTaskRun key free

theorem footprint_of_decides {run next : BuildRun} (decides : c.Decides settings run next d)
    (key : ObjectKey) : Footprint key c d := by
  cases decides with
  | started prepares => exact footprint_of_prepares prepares key
  | failed | lost | observed => exact .refl key c

theorem advance_footprint (filed : c.Filed)
    (ended : (advance settings key.ns key.name).Ends (Cluster.Meets hazards) c r d) :
    Footprint key c d := by
  cases stored : c.runs.get? key with
  | none =>
    rw [advance_missing stored ended]
    exact .refl key c
  | some run =>
    have own := filed.runs key run stored
    subst own
    cases advance_only stored ended with
    | finished | deferred | interrupted => exact .refl _ c
    | aborted _ _ prepares => exact footprint_of_prepares prepares _
    | written _ decides =>
      rw [decides.eq]
      exact (footprint_of_decides decides _).withRun stored _
    | lost _ _ _ decides =>
      rw [decides.eq]
      exact (footprint_of_decides decides _).withRun stored _

/-- A pass over a run that is gone or done changes nothing. -/
theorem advance_idle (filed : c.Filed) (idle : (Subject.run key).Idle c)
    (ended : (advance settings key.ns key.name).Ends (Cluster.Meets hazards) c r d) : d = c := by
  cases stored : c.runs.get? key with
  | none => exact advance_missing stored ended
  | some run =>
    have done := idle run stored
    have own := filed.runs key run stored
    subst own
    cases advance_only stored ended with
    | finished | deferred | interrupted => rfl
    | written notDone | aborted notDone | lost notDone =>
      rw [done] at notDone
      cases notDone

end BuildRun

namespace Subject

/-- The footprint of a pass, whatever comes between it and its control plane. If it succeeds, it has
written nothing because there was nothing to do, or it has written exactly one status, that of its
subject, and nothing after it. However it ends, a pass over a build has changed at most the status
of the build and the owners of runs that are labelled with its name, and a pass over a run at most
the status of the run, besides creating at most one task run under a free name. -/
theorem pass_footprint (settings : Settings) (filed : c.Filed) (subject : Subject)
    (ended : (subject.pass settings).Ends (Cluster.Meets hazards).recorded (c, []) r (d, log)) :
    (r = .ok () → subject.Idle c → d = c ∧ ∀ event ∈ log, ¬event.1.Writes) ∧
      (r = .ok () → ¬subject.Idle c → log.Concludes subject) ∧ subject.Footprint c d := by
  have plain := (ends_iff_recorded []).mpr ⟨log, ended⟩
  cases subject with
  | build key =>
    refine ⟨?_, ?_, Build.register_footprint filed plain⟩
    · rintro rfl idle
      obtain ⟨-, silent⟩ | ⟨⟨build, stored⟩, -⟩ := Build.register_recorded filed ended
      · exact ⟨Build.register_missing idle plain, silent⟩
      · cases stored.symm.trans idle
    · rintro rfl busy
      obtain ⟨idle, -⟩ | ⟨-, concludes⟩ := Build.register_recorded filed ended
      · exact (busy idle).elim
      · exact concludes
  | run key =>
    refine ⟨?_, ?_, BuildRun.advance_footprint filed plain⟩
    · rintro rfl idle
      obtain ⟨-, silent⟩ | ⟨⟨run, stored, notDone⟩, -⟩ := BuildRun.advance_recorded filed ended
      · exact ⟨BuildRun.advance_idle filed idle plain, silent⟩
      · rw [idle run stored] at notDone
        cases notDone
    · rintro rfl busy
      obtain ⟨idle, -⟩ | ⟨-, concludes⟩ := BuildRun.advance_recorded filed ended
      · exact (busy idle).elim
      · exact concludes

/-- A first pass over a run creates its task run and writes the status of the run at its end. -/
theorem pass_footprint_started :
    let run : BuildRun :=
      { metadata := { name := "run", uid := "0a1b2c" }, spec := { build := { name := "app" } } }
    let build : Build :=
      { metadata := { name := "app" }
        spec := { strategy := { name := "kaniko" }, output := { image := "registry/app" } }
        status := { registered := some .true } }
    let strategy : BuildStrategy := { metadata := { name := "kaniko" }, spec := {} }
    let c := (((Cluster.put {} (.build build)).put (.strategy strategy)).put (.run run))
    ∃ d log, ((Subject.run ⟨"", "run"⟩).pass {}).Ends (Cluster.Meets .all).recorded (c, [])
        (.ok ()) (d, log) ∧
      d.taskRuns.get? ⟨"", "run-0a1b2"⟩ = some (TaskRun.plan {} "run-0a1b2" build run {}) ∧
      log.Concludes (.run ⟨"", "run"⟩) ∧ BuildRun.Footprint ⟨"", "run"⟩ c d := by
  intro run build strategy c
  have filed : c.Filed :=
    ((Cluster.filed_empty.put (.build build)).put (.strategy strategy)).put (.run run)
  have stored : c.runs.get? run.metadata.key = some run := OrderedMap.get?_insert_self _ _ _
  have suffix : TaskRunPlan.nameSuffix? run.metadata.uid = some "0a1b2" := by decide
  have names : run.Names "run-0a1b2" := .of_suffix suffix
  let d := c.withTaskRun (TaskRun.plan {} "run-0a1b2" build run strategy.spec)
  have prepares : c.Prepares {} run "run-0a1b2" d :=
    ⟨rfl, build, strategy, rfl, names, .created rfl names rfl⟩
  have plain : (BuildRun.advance {} "" "run").Ends (Cluster.Meets .all) c (.ok ()) _ :=
    BuildRun.ends_advance_written stored rfl (.started prepares default)
  obtain ⟨log, ended⟩ := (ends_iff_recorded []).mp plain
  have busy : ¬(Subject.run ⟨"", "run"⟩).Idle c := by
    intro idle
    cases idle run stored
  obtain ⟨-, concludes, footprint⟩ := pass_footprint {} filed (.run ⟨"", "run"⟩) ended
  exact ⟨_, log, ended, OrderedMap.get?_insert_self _ _ _, concludes rfl busy, footprint⟩

end Subject

end BuildController
