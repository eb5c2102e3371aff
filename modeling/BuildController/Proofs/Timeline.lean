import BuildController.Proofs.Timing

/-! The system with a clock that never goes back and that the engine shares. The times of a run are
in order, unless its task run had completed before anything was recorded of its start: then the
start time is the instant at which the task run was found, and the completion time is the one that
the engine reported of it. -/
namespace BuildController

/-- The times that an engine reports of a task run lie between its creation and the present, and
they are in order. -/
structure TaskRunStatus.Credible (created : Option Instant) (now : Instant) (s : TaskRunStatus) :
    Prop where
  startTime : ∀ begun, s.startTime = some begun →
    (∀ born, created = some born → born ≤ begun) ∧ begun ≤ now
  completionTime : ∀ ended, s.completionTime = some ended →
    (∀ born, created = some born → born ≤ ended) ∧ ended ≤ now
  ordered : ∀ begun ended, s.startTime = some begun → s.completionTime = some ended →
    begun ≤ ended

/-- The instants at which task runs were created, as far as they are known. -/
abbrev Births := ObjectKey → Option Instant

namespace Births

/-- The births after a change: the task runs that appeared were created at that instant. -/
def noting (births : Births) (now : Instant) (c d : Cluster) : Births := fun key =>
  if (c.taskRuns.get? key).isNone ∧ (d.taskRuns.get? key).isSome then some now else births key

/-- The clock shows the present, and a task run that is found has credible times. -/
def Shows (births : Births) (now : Instant) : (effect : Effect) → effect.Answer → Prop
  | .clock, time => time = now
  | .send (.getTaskRun ns name), answer => ∀ taskRun, answer = .ok (some taskRun) →
    taskRun.status.Credible (births ⟨ns, name⟩) now
  | _, _ => True

end Births

namespace Cluster

/-- How effects go at an instant, under all hazards. -/
def MeetsAt (now : Instant) : Handling (Cluster × Births)
  | before, effect, answer, after => Meets .all before.1 effect answer after.1 ∧
    before.2.Shows now effect answer ∧ after.2 = before.2.noting now before.1 after.1

end Cluster

/-- A system, the present, and the births of its task runs. -/
structure Timeline where
  system : System
  now : Instant
  births : Births

namespace Timeline

/-- One step: a step of the system at the present, or time passes. -/
inductive Step (settings : Settings) : Timeline → Timeline → Prop
  | launch {c flights now births} (subject : Subject) :
      Step settings ⟨⟨c, flights⟩, now, births⟩
        ⟨⟨c, ⟨subject, subject.pass settings⟩ :: flights⟩, now, births⟩
  | perform {c d now births births' before subject after} {effect : Effect}
      {resume : effect.Answer → Pass Unit} {answer : effect.Answer}
      (met : Cluster.MeetsAt now (c, births) effect answer (d, births')) :
      Step settings ⟨⟨c, before ++ ⟨subject, .perform effect resume⟩ :: after⟩, now, births⟩
        ⟨⟨d, before ++ ⟨subject, resume answer⟩ :: after⟩, now, births'⟩
  | leave {c now births before flight after} :
      Step settings ⟨⟨c, before ++ flight :: after⟩, now, births⟩
        ⟨⟨c, before ++ after⟩, now, births⟩
  | intervene {c d flights now births} (intervenes : c.Intervenes d) :
      Step settings ⟨⟨c, flights⟩, now, births⟩ ⟨⟨d, flights⟩, now, births.noting now c d⟩
  | wait {system now later births} (passes : now ≤ later) :
      Step settings ⟨system, now, births⟩ ⟨system, later, births⟩

/-- Steps in turn, through systems that meet a condition. -/
def Path (settings : Settings) (within : System → Prop) : Timeline → Timeline → Prop :=
  Relation.ReflTransGen fun s t => Step settings s t ∧ within t.system

/-- Some time the engine reported that the task run under the key had completed then. -/
def Reported (settings : Settings) (s t : Timeline) (key : ObjectKey) (ended : Instant) : Prop :=
  ∃ u taskRun, Path settings (fun _ => True) s u ∧ Path settings (fun _ => True) u t ∧
    u.system.cluster.taskRuns.get? key = some taskRun ∧
    taskRun.status.completionTime = some ended

/-- The completion times of all task runs can be reported. -/
def Reports (reported : ObjectKey → Instant → Prop) (s : Timeline) : Prop :=
  ∀ key taskRun ended, s.system.cluster.taskRuns.get? key = some taskRun →
    taskRun.status.completionTime = some ended → reported key ended

/-- The times of all stored runs have passed, and so will those have that passes under way write. -/
structure Dated (settings : Settings) (reported : ObjectKey → Instant → Prop) (s : Timeline) :
    Prop where
  keyed : s.system.cluster.Keyed
  sound : s.system.Sound settings
  statuses : ∀ key run, s.system.cluster.runs.get? key = some run →
    run.status.Dated s.now fun taskRun => reported ⟨key.ns, taskRun⟩
  flights : ∀ flight ∈ s.system.flights, flight.rest.Timely reported (fun _ _ => True) s.now

variable {settings : Settings} {reported : ObjectKey → Instant → Prop} {c d : Cluster}
  {now : Instant} {births births' : Births} {hazards : Hazards} {s t u : Timeline}

/-- A step is one of the system at the present, or the system rests while time passes. -/
theorem Step.system (step : Step settings s t) :
    (System.Step settings s.system t.system ∧ t.now = s.now) ∨
      t.system = s.system ∧ s.now ≤ t.now := by
  cases step with
  | launch subject => exact .inl ⟨.launch subject, rfl⟩
  | perform met => exact .inl ⟨.perform met.1, rfl⟩
  | leave => exact .inl ⟨.leave, rfl⟩
  | intervene intervenes => exact .inl ⟨.intervene intervenes, rfl⟩
  | wait passes => exact .inr ⟨rfl, passes⟩

/-- Without the clock, a path is one of the system. -/
theorem Path.system {within : System → Prop} (path : Path settings within s t) :
    System.Path settings within s.system t.system := by
  induction path with
  | refl => exact .refl
  | tail _ last ih =>
    obtain ⟨step, -⟩ | ⟨rests, -⟩ := last.1.system
    · exact ih.tail ⟨step, last.2⟩
    · rw [rests]
      exact ih

theorem Path.free {within : System → Prop} (path : Path settings within s t) :
    Path settings (fun _ => True) s t :=
  Relation.ReflTransGen.mono (fun _ _ step => ⟨step.1, trivial⟩) _ _ path

/-- What a pass is told at an instant is what can be told. -/
theorem Dated.tells {flights : List Flight} {effect : Effect} {answer : effect.Answer}
    (dated : Dated settings reported ⟨⟨c, flights⟩, now, births⟩)
    (reports : Reports reported ⟨⟨c, flights⟩, now, births⟩)
    (met : Cluster.MeetsAt now (c, births) effect answer (d, births')) :
    now.Tells reported effect answer := by
  obtain ⟨asked, shows, -⟩ := met
  cases effect with
  | clock => exact shows
  | send request =>
    cases request with
    | getRun ns name =>
      rintro run rfl
      have stored : c.runs.get? ⟨ns, name⟩ = some run := Except.ok.inj asked.answered
      exact ⟨dated.keyed _ run stored, dated.sound.statuses _ run stored,
        dated.statuses _ run stored⟩
    | getTaskRun ns name =>
      rintro taskRun ended rfl completed
      have stored : c.taskRuns.get? ⟨ns, name⟩ = some taskRun := Except.ok.inj asked.answered
      exact ⟨((shows taskRun rfl).completionTime ended completed).2,
        reports _ taskRun ended stored completed⟩
    | _ => trivial
  | _ => trivial

theorem Dated.next (dated : s.Dated settings reported) (reports : s.Reports reported)
    (step : Step settings s t) : t.Dated settings reported where
  keyed := by
    obtain ⟨moves, -⟩ | ⟨rests, -⟩ := step.system
    · exact moves.keyed dated.keyed
    · rw [rests]
      exact dated.keyed
  sound := by
    obtain ⟨moves, -⟩ | ⟨rests, -⟩ := step.system
    · exact dated.sound.next moves
    · rw [rests]
      exact dated.sound
  statuses key run stored := by
    obtain ⟨moves, same⟩ | ⟨rests, passes⟩ := step.system
    · rw [same]
      obtain carried | ⟨subject, effect, resume, next, member, writes, named, written⟩ :=
        moves.carries stored
      · unfold Cluster.Carries at carried
        split at carried
        · next old found =>
          rw [carried]
          exact dated.statuses key old found
        · rw [carried]
          exact RunStatus.dated_empty _ _
      · have permitted := (dated.flights _ member s.now le_rfl).1 next writes
        rw [written, ← named]
        exact permitted
    · rw [rests] at stored
      exact (dated.statuses key run stored).mono passes
  flights := by
    have flights := dated.flights
    cases step with
    | launch subject =>
      exact List.forall_mem_cons.mpr ⟨subject.timely_pass settings reported _, flights⟩
    | perform met =>
      simp only [List.forall_mem_append, List.forall_mem_cons] at flights ⊢
      refine ⟨flights.1, ?_, flights.2.2⟩
      exact (flights.2.1 _ le_rfl).2 _ (dated.tells reports met)
    | leave =>
      simp only [List.forall_mem_append, List.forall_mem_cons] at flights ⊢
      exact ⟨flights.1, flights.2.2⟩
    | intervene => exact flights
    | wait passes => exact fun flight member => (flights flight member).mono passes

theorem Dated.reaches (dated : s.Dated settings reported) (path : Path settings (fun _ => True) s t)
    (reports : ∀ u, Path settings (fun _ => True) s u → Path settings (fun _ => True) u t →
      u.Reports reported) : t.Dated settings reported := by
  induction path with
  | refl => exact dated
  | tail earlier last ih =>
    have begun := ih fun u before after => reports u before (after.tail last)
    exact begun.next (reports _ earlier (.single last)) last.1

/-- Before any status is written, the times of all stored runs have passed. -/
theorem dated_of_empty (keyed : s.system.cluster.Keyed)
    (empty : ∀ key run, s.system.cluster.runs.get? key = some run → run.status = {})
    (idle : s.system.flights = []) : s.Dated settings reported where
  keyed := keyed
  sound := by
    constructor
    · intro key run stored
      rw [empty key run stored]
      exact RunStatus.sound_empty
    · simp [idle]
  statuses key run stored := by
    rw [empty key run stored]
    exact RunStatus.dated_empty _ _
  flights := by simp [idle]

/-- If all statuses are empty at first, then the times of a run have passed whenever they are
stored, and they are in order, unless the completion time is one that the engine reported of the
recorded task run and had passed whenever it was known, while the run stayed stored and no two
passes were under way over it, that the run had started. -/
theorem run_times_ordered (settings : Settings) (keyed : s.system.cluster.Keyed)
    (empty : ∀ key run, s.system.cluster.runs.get? key = some run → run.status = {})
    (idle : s.system.flights = []) (path : Path settings (fun _ => True) s t)
    (stored : t.system.cluster.runs.get? key = some run)
    (started : run.status.startTime = some begun)
    (completed : run.status.completionTime = some ended) :
    begun ≤ t.now ∧ ended ≤ t.now ∧ (begun ≤ ended ∨
      (∃ name, run.status.taskRunName = some name ∧
        Reported settings s t ⟨key.ns, name⟩ ended) ∧
      ∀ u known, Path settings System.Exclusive s u →
        Path settings (fun v => v.Exclusive ∧ (v.cluster.runs.get? key).isSome) u t →
        u.system.cluster.runs.get? key = some known → known.status.startTime.isSome →
        ¬u.now ≤ ended) := by
  have reached : t.Dated settings (Reported settings s t) := by
    apply (dated_of_empty keyed empty idle).reaches path
    intro u before after key taskRun ended found reports
    exact ⟨u, taskRun, before, after, found, reports⟩
  have dated := reached.statuses key run stored
  refine ⟨dated.startTime begun started, dated.completionTime ended completed, ?_⟩
  by_cases ordered : begun ≤ ended
  · exact .inl ordered
  · obtain inOrder | reported := dated.ordered begun ended started completed
    · exact absurd inOrder ordered
    · refine .inr ⟨reported, ?_⟩
      -- A start time that is known has passed, and it is never replaced.
      intro u known history future present began late
      obtain ⟨time, known_time⟩ := Option.isSome_iff_exists.mp began
      have middle : u.Dated settings fun _ _ => True :=
        (dated_of_empty keyed empty idle).reaches history.free
          fun _ _ _ _ _ _ _ _ => trivial
      have passed := (middle.statuses key known present).startTime time known_time
      obtain ⟨begun, alone⟩ : s.system.Orderly settings ∧ s.system.Exclusive :=
        System.orderly_of_idle keyed idle
      obtain ⟨orderly, exclusive⟩ := begun.reaches alone (fun _ => id) history.system
      have precedes := orderly.precedes_of_path exclusive future.system present stored
      cases started.symm.trans (precedes.startTime time known_time)
      exact ordered (passed.trans late)

/-- Where no task run appears, there is no birth. -/
theorem noting_of_taskRuns (births : Births) (now : Instant) (same : d.taskRuns = c.taskRuns) :
    births.noting now c d = births := by
  funext key
  unfold Births.noting
  rw [same]
  cases c.taskRuns.get? key <;> simp

/-- A pass that is under way alone can go on at an instant in every way that the hazards allow. -/
theorem path_of_ends {subject : Subject} {pass : Pass Unit}
    (ended : pass.Ends (Cluster.MeetsAt now) (c, births) r (d, births')) :
    Path settings (fun _ => True) ⟨⟨c, [⟨subject, pass⟩]⟩, now, births⟩
      ⟨⟨d, [⟨subject, .done r⟩]⟩, now, births'⟩ := by
  let place (state : Cluster × Births) (rest : Pass Unit) : Timeline :=
    ⟨⟨state.1, [] ++ ⟨subject, rest⟩ :: []⟩, now, state.2⟩
  apply ended.path place
  intro s effect resume answer t met
  exact ⟨.perform met, trivial⟩

/-- A whole pass at an instant is a path. -/
theorem path_of_pass {subject : Subject}
    (ended : (subject.pass settings).Ends (Cluster.MeetsAt now) (c, births) r (d, births')) :
    Path settings (fun _ => True) ⟨⟨c, []⟩, now, births⟩ ⟨⟨d, []⟩, now, births'⟩ := by
  have begun : Step settings ⟨⟨c, []⟩, now, births⟩
      ⟨⟨c, [⟨subject, subject.pass settings⟩]⟩, now, births⟩ := .launch subject
  have gone : Step settings ⟨⟨d, [] ++ ⟨subject, .done r⟩ :: []⟩, now, births'⟩
      ⟨⟨d, [] ++ []⟩, now, births'⟩ := .leave
  exact .head ⟨begun, trivial⟩ (.tail (path_of_ends ended) ⟨gone, trivial⟩)

/-- An effect that leaves the control plane alone leaves the births alone. -/
theorem meetsAt_same {effect : Effect} {answer : effect.Answer}
    (met : Cluster.Meets .all c effect answer c) (shows : births.Shows now effect answer) :
    Cluster.MeetsAt now (c, births) effect answer (c, births) :=
  ⟨met, shows, (noting_of_taskRuns births now rfl).symm⟩

theorem ends_send_same {request : Request} {value : request.Answer}
    (answered : c.answer request = (.ok value, c))
    (shows : births.Shows now (.send request) (.ok value)) :
    (Pass.send request).Ends (Cluster.MeetsAt now) (c, births) (.ok value) (c, births) :=
  Pass.ends_send.mpr (.inl ⟨value, meetsAt_same (.inl ⟨value, answered, rfl⟩) shows, rfl⟩)

theorem ends_write {request : Request} {value : request.Answer}
    (answered : c.answer request = (.ok value, d))
    (shows : births.Shows now (.send request) (.ok value)) :
    (Pass.send request).Ends (Cluster.MeetsAt now) (c, births) (.ok value)
      (d, births.noting now c d) :=
  Pass.ends_send.mpr (.inl ⟨value, ⟨.inl ⟨value, answered, rfl⟩, shows, rfl⟩, rfl⟩)

theorem ends_stamped {read : Pass Readings} (reads : read.ReadsClock) {f : Readings → α} :
    (do return f (← read)).Ends (Cluster.MeetsAt now) (c, births) (.ok (f ⟨now, now⟩))
      (c, births) := by
  have shown : Cluster.MeetsAt now (c, births) .clock now (c, births) := meetsAt_same rfl rfl
  cases reads <;> exact ⟨now, _, shown, now, _, shown, rfl, rfl⟩

/-- An inquiry leaves the control plane alone, whatever comes in between. -/
theorem inquiry_kept {effect : Effect} {answer : effect.Answer} (inquires : effect.Inquires)
    (met : Cluster.Meets hazards c effect answer d) : d = c := by
  obtain same | ⟨request, rfl, same⟩ := met.effect
  · exact same
  · rw [same]
    rcases inquires with looks | ⟨_, _, ⟨⟩⟩
    · cases request <;> first | rfl | cases looks
    · rfl

/-- An inquiry neither looks at the clock nor at task runs. -/
theorem inquiry_shows {effect : Effect} {answer : effect.Answer} (inquires : effect.Inquires)
    (births : Births) (now : Instant) : births.Shows now effect answer := by
  rcases inquires with looks | ⟨_, _, rfl⟩
  · unfold Births.Shows
    split
    · cases looks
    · cases looks
    · trivial
  · trivial

/-- What only inquires can be done at any instant. -/
theorem ends_inquiry {pass : Pass α} (only : pass.Only Effect.Inquires)
    (ended : pass.Ends (Cluster.Meets .all) c r d) :
    pass.Ends (Cluster.MeetsAt now) (c, births) r (c, births) := by
  induction pass with
  | done outcome => exact ⟨ended.1, rfl⟩
  | perform effect resume ih =>
    obtain ⟨answer, middle, met, rest⟩ := ended
    have same := inquiry_kept only.1 met
    subst same
    exact ⟨answer, (middle, births), meetsAt_same met (inquiry_shows only.1 births now),
      ih answer (only.2 answer) rest⟩

section Passes

variable {run next : BuildRun} {build : Build} {strategy : BuildStrategy} {suffix : String}

/-- A run that the gate admits is started at an instant, once its task run is ensured. -/
theorem ends_start (admits : c.gate run = .admits (build, strategy))
    (derived : TaskRunPlan.nameSuffix? run.metadata.uid = some suffix)
    (ensured : (run.ensureTaskRun settings (TaskRunPlan.nameWith run suffix) build strategy).Ends
      (Cluster.MeetsAt now) (c, births) (.ok ()) (d, births')) :
    (run.start settings).Ends (Cluster.MeetsAt now) (c, births)
      (.ok (run.started ⟨now, now⟩ (TaskRunPlan.nameWith run suffix))) (d, births') := by
  have resolved : run.resolve.Reads c (c.gate run).resolution := BuildRun.reads_resolve
  rw [admits] at resolved
  have inquires : run.resolve.Only Effect.Inquires :=
    (BuildRun.only_resolve run).mono fun _ => Effect.InquiresIn.inquires
  have checked : Pass.checkpoint.Ends (Cluster.MeetsAt now) (c, births) (.ok ()) (c, births) :=
    ⟨false, _, meetsAt_same ⟨nofun, rfl⟩ trivial, rfl, rfl⟩
  unfold BuildRun.start
  refine Pass.ends_bind_ok.mpr ⟨_, _, ends_inquiry inquires (resolved.ends .all), ?_⟩
  refine Pass.ends_bind_ok.mpr ⟨(), _, checked, ?_⟩
  rw [BuildRun.taskRunName, derived]
  refine Pass.ends_bind_ok.mpr ⟨_, _, ⟨rfl, rfl⟩, ?_⟩
  exact Pass.ends_bind_ok.mpr ⟨(), _, ensured, ends_stamped .atStart⟩

theorem ends_getTaskRun (run : BuildRun) {name : String} {found? : Option TaskRun}
    (found : c.taskRuns.get? ⟨run.metadata.namespaceName, name⟩ = found?)
    (credible : ∀ taskRun, found? = some taskRun →
      taskRun.status.Credible (births ⟨run.metadata.namespaceName, name⟩) now) :
    (Pass.send (.getTaskRun run.metadata.namespaceName name)).Ends (Cluster.MeetsAt now)
      (c, births) (.ok found?) (c, births) := by
  subst found
  apply ends_send_same rfl
  intro taskRun told
  exact credible taskRun (Except.ok.inj told)

theorem ends_ensure_created (derived : TaskRunPlan.nameSuffix? run.metadata.uid = some suffix)
    (absent : c.taskRuns.get?
      ⟨run.metadata.namespaceName, TaskRunPlan.nameWith run suffix⟩ = none) :
    let created := c.withTaskRun (TaskRun.plan settings (TaskRunPlan.nameWith run suffix) build run
      strategy.spec)
    (run.ensureTaskRun settings (TaskRunPlan.nameWith run suffix) build strategy).Ends
      (Cluster.MeetsAt now) (c, births) (.ok ()) (created, births.noting now c created) := by
  refine Pass.ends_bind_ok.mpr ⟨none, _, ends_getTaskRun run absent (by rintro _ ⟨⟩), ?_⟩
  dsimp only
  rw [BuildRun.taskRunName, derived]
  refine Pass.ends_bind_ok.mpr ⟨_, _, ⟨rfl, rfl⟩, ?_⟩
  exact ends_write (Cluster.answer_createTaskRun_free absent) trivial

section Found

variable {taskRun : TaskRun} {name : String}
  (found : c.taskRuns.get? ⟨run.metadata.namespaceName, name⟩ = some taskRun)
  (credible : taskRun.status.Credible (births ⟨run.metadata.namespaceName, name⟩) now)

include found credible

theorem ends_ensure_found : (run.ensureTaskRun settings name build strategy).Ends
    (Cluster.MeetsAt now) (c, births) (.ok ()) (c, births) := by
  refine Pass.ends_bind_ok.mpr ⟨_, _, ends_getTaskRun run found ?_, rfl, rfl⟩
  rintro _ ⟨⟩
  exact credible

theorem ends_follow : (run.follow name).Ends (Cluster.MeetsAt now) (c, births)
    (.ok (Observation.observe ⟨now, now⟩ run taskRun)) (c, births) := by
  refine Pass.ends_bind_ok.mpr ⟨_, _, ends_getTaskRun run found ?_, ends_stamped .atEnd⟩
  rintro _ ⟨⟩
  exact credible

end Found

/-- The pass over a stored run that is not done decides what the run becomes and writes it. -/
theorem ends_advance (stored : c.runs.get? run.metadata.key = some run)
    (notDone : run.status.isDone = false)
    (decided : (run.next settings).Ends (Cluster.MeetsAt now) (c, births) (.ok next) middle)
    (written : (Pass.send (.updateRunStatus next)).Ends (Cluster.MeetsAt now) middle r after) :
    ((Subject.run run.metadata.key).pass settings).Ends (Cluster.MeetsAt now) (c, births) r
      after := by
  have looked : c.answer (.getRun run.metadata.key.ns run.metadata.key.name) =
      (.ok (some run), c) := by
    rw [← stored]
    rfl
  change (BuildRun.advance settings run.metadata.key.ns run.metadata.key.name).Ends _ _ _ _
  rw [BuildRun.advance_eq]
  refine Pass.ends_bind.mpr (.inl ⟨_, _, ends_send_same looked trivial, ?_⟩)
  dsimp only
  rw [if_neg (by simp [notDone])]
  exact Pass.ends_bind.mpr (.inl ⟨next, middle, decided, written⟩)

end Passes

/-- A second of the first minute of all. -/
def early (n : Fin 60) : Instant :=
  { (default : Instant) with second := n, second_lt := by omega }

/-- A pass creates a task run and cannot write that it did. The engine completes the task run, and
then a later pass finds it and records the start, and one more takes over the completion time. -/
theorem late_adoption : ∃ s t run, s.system.cluster.Keyed ∧
    (∀ key run, s.system.cluster.runs.get? key = some run → run.status = {}) ∧
    s.system.flights = [] ∧ Path {} (fun _ => True) s t ∧
    t.system.cluster.runs.get? ⟨"", "run"⟩ = some run ∧
    run.status.taskRunName = some "run-0a1b2" ∧
    run.status.startTime = some (early 3) ∧ run.status.completionTime = some (early 2) := by
  let run : BuildRun :=
    { metadata := { name := "run", uid := "0a1b2c" }, spec := { build := { name := "app" } } }
  let build : Build :=
    { metadata := { name := "app" }
      spec := { strategy := { name := "kaniko" }, output := { image := "registry/app" } }
      status := { registered := some .true } }
  let strategy : BuildStrategy := { metadata := { name := "kaniko" }, spec := {} }
  let c := (((Cluster.put {} (.build build)).put (.strategy strategy)).put (.run run))
  let births : Births := fun _ => none
  have derived : TaskRunPlan.nameSuffix? run.metadata.uid = some "0a1b2" := by decide
  have stored : c.runs.get? run.metadata.key = some run := OrderedMap.get?_insert_self _ _ _
  -- The first pass creates the task run.
  let created := TaskRun.plan {} "run-0a1b2" build run strategy.spec
  let c₁ := c.withTaskRun created
  let births₁ := births.noting (early 1) c c₁
  have lost : (Pass.send (.updateRunStatus
      (run.started ⟨early 1, early 1⟩ "run-0a1b2"))).Ends (Cluster.MeetsAt (early 1))
      (c₁, births₁) (.error (.request .transport)) (c₁, births₁) :=
    Pass.ends_send.mpr (.inr ⟨.transport,
      meetsAt_same (.inr ⟨trivial, .inl rfl, _, rfl⟩) trivial, rfl⟩)
  have first : ((Subject.run ⟨"", "run"⟩).pass {}).Ends (Cluster.MeetsAt (early 1)) (c, births)
      (.error (.request .transport)) (c₁, births₁) :=
    ends_advance stored rfl (ends_start rfl derived (ends_ensure_created derived rfl)) lost
  -- The engine reports that it has completed.
  let reported : TaskRunStatus :=
    { conditions := [{ type := "Succeeded", status := .true, reason := "Succeeded", message := "",
                       lastTransitionTime := none }]
      startTime := some (early 1), completionTime := some (early 2) }
  have credible : reported.Credible (some (early 1)) (early 3) := by
    constructor
    · rintro _ ⟨⟩
      exact ⟨fun _ born => Option.some.inj born ▸ le_rfl, by decide⟩
    · rintro _ ⟨⟩
      exact ⟨fun _ born => Option.some.inj born ▸ by decide, by decide⟩
    · rintro _ _ ⟨⟩ ⟨⟩
      decide
  let completed : TaskRun := { created with status := reported }
  let c₂ := c₁.withTaskRun completed
  let births₂ := births₁.noting (early 2) c₁ c₂
  have intervenes : c₁.Intervenes c₂ :=
    ⟨fun keyed => keyed, fun _ _ stored => Cluster.carries_of_stored stored⟩
  have reports : Path {} (fun _ => True) ⟨⟨c₁, []⟩, early 1, births₁⟩
      ⟨⟨c₂, []⟩, early 3, births₂⟩ :=
    .head ⟨.wait (by decide), trivial⟩ (.head ⟨.intervene intervenes, trivial⟩
      (.single ⟨.wait (by decide), trivial⟩))
  have present : c₂.taskRuns.get? ⟨"", "run-0a1b2"⟩ = some completed :=
    OrderedMap.get?_insert_self _ _ _
  -- The second pass finds the task run, and the third one observes it.
  have stored₂ : c₂.runs.get? run.metadata.key = some run := stored
  have born₂ : births₂ ⟨"", "run-0a1b2"⟩ = some (early 1) := rfl
  let started := run.started ⟨early 3, early 3⟩ "run-0a1b2"
  let c₃ := c₂.withRun started
  let births₃ := births₂.noting (early 3) c₂ c₃
  have second : ((Subject.run ⟨"", "run"⟩).pass {}).Ends (Cluster.MeetsAt (early 3)) (c₂, births₂)
      (.ok ()) (c₃, births₃) :=
    ends_advance stored₂ rfl
      (ends_start rfl derived (ends_ensure_found present (born₂ ▸ credible)))
      (ends_write (Cluster.answer_updateRunStatus stored₂ rfl) trivial)
  have stored₃ : c₃.runs.get? started.metadata.key = some started :=
    OrderedMap.get?_insert_self _ _ _
  have born₃ : births₃ ⟨"", "run-0a1b2"⟩ = some (early 1) :=
    (congrFun (noting_of_taskRuns births₂ (early 3) rfl) _).trans born₂
  let observed := Observation.observe ⟨early 3, early 3⟩ started completed
  let c₄ := c₃.withRun observed
  have third : ((Subject.run ⟨"", "run"⟩).pass {}).Ends (Cluster.MeetsAt (early 3)) (c₃, births₃)
      (.ok ()) (c₄, births₃.noting (early 3) c₃ c₄) :=
    ends_advance stored₃ rfl (ends_follow present (born₃ ▸ credible))
      (ends_write (Cluster.answer_updateRunStatus stored₃ (Observation.observe_eq _ _ _)) trivial)
  have path := (path_of_pass first).trans (reports.trans ((path_of_pass second).trans
    (path_of_pass third)))
  have keyed : c.Keyed := Cluster.keyed_put (Cluster.keyed_put (Cluster.keyed_put
    Cluster.keyed_empty _) _) _
  refine ⟨_, _, observed, keyed, ?_, rfl, path, OrderedMap.get?_insert_self _ _ _, rfl, rfl, rfl⟩
  intro key other found
  rw [OrderedMap.eq_of_get?_insert_empty found]

/-- The run that was adopted late is one whose times are in no order: the engine had reported the
completion time of its task run. -/
theorem run_times_ordered_adopted : ∃ s t run, Path {} (fun _ => True) s t ∧
    t.system.cluster.runs.get? ⟨"", "run"⟩ = some run ∧
    run.status.startTime = some (early 3) ∧ run.status.completionTime = some (early 2) ∧
    early 3 ≤ t.now ∧ early 2 ≤ t.now ∧ Reported {} s t ⟨"", "run-0a1b2"⟩ (early 2) := by
  obtain ⟨s, t, run, keyed, empty, idle, path, stored, named, started, completed⟩ := late_adoption
  obtain ⟨begun, ended, ordered | ⟨⟨name, recorded, reported⟩, -⟩⟩ :=
    run_times_ordered {} keyed empty idle path stored started completed
  · exact absurd ordered (by decide)
  · cases named.symm.trans recorded
    exact ⟨s, t, run, path, stored, started, completed, begun, ended, reported⟩

/-- Not all histories lead to times in order. -/
theorem run_times_disordered : ¬∀ (s t : Timeline) (key : ObjectKey) (run : BuildRun)
    (begun ended : Instant), s.system.cluster.Keyed →
    (∀ key run, s.system.cluster.runs.get? key = some run → run.status = {}) →
    s.system.flights = [] → Path {} (fun _ => True) s t →
    t.system.cluster.runs.get? key = some run → run.status.startTime = some begun →
    run.status.completionTime = some ended → begun ≤ ended := by
  intro ordered
  obtain ⟨s, t, run, keyed, empty, idle, path, stored, -, started, completed⟩ := late_adoption
  exact absurd (ordered s t _ run _ _ keyed empty idle path stored started completed) (by decide)

end Timeline

end BuildController
