import BuildController.Proofs.Coherence
import BuildController.Proofs.Lifecycle
import Mathlib.Order.Defs.PartialOrder

/-! The times that a pass writes. While a pass is under way the clock goes on, so what it does is
looked at from an instant: whatever it is told from then on, the times that it writes have passed by
the instant at which it writes them. They are in order unless the completion time is one that was
reported of the task run. -/
namespace BuildController

instance : Preorder Instant where
  le_refl t := List.le_refl t.parts
  le_trans _ _ _ first second := List.le_trans first second

/-- The times of a status have passed, and they are in order unless the completion time was reported
of the task run of the recorded name. -/
structure RunStatus.Dated (now : Instant) (reported : String → Instant → Prop) (s : RunStatus) :
    Prop where
  startTime : ∀ begun, s.startTime = some begun → begun ≤ now
  completionTime : ∀ ended, s.completionTime = some ended → ended ≤ now
  ordered : ∀ begun ended, s.startTime = some begun → s.completionTime = some ended →
    begun ≤ ended ∨ ∃ name, s.taskRunName = some name ∧ reported name ended

/-- What has been told at an instant: the present, runs with times that have passed, and task runs
with completion times that have passed and can be reported. -/
def Instant.Tells (reported : ObjectKey → Instant → Prop) (now : Instant) :
    (effect : Effect) → effect.Answer → Prop
  | .clock, time => time = now
  | .send (.getRun ns name), answer => ∀ run, answer = .ok (some run) →
    run.metadata.key = ⟨ns, name⟩ ∧ run.status.Sound ∧
      run.status.Dated now fun taskRun => reported ⟨ns, taskRun⟩
  | .send (.getTaskRun ns name), answer => ∀ taskRun ended, answer = .ok (some taskRun) →
    taskRun.status.completionTime = some ended → ended ≤ now ∧ reported ⟨ns, name⟩ ended
  | _, _ => True

/-- Whatever status of a run is written, its times have passed. -/
def Instant.Permits (reported : ObjectKey → Instant → Prop) (now : Instant) (effect : Effect) :
    Prop :=
  ∀ next, effect.runWrite? = some next →
    next.status.Dated now fun taskRun => reported ⟨next.metadata.namespaceName, taskRun⟩

/-- From an instant on, whatever the pass is told and when, it performs effects only when they are
permitted, and a value with which it ends has the property at that time. -/
def Pass.Timely (reported : ObjectKey → Instant → Prop) (post : Instant → α → Prop) :
    Instant → Pass α → Prop
  | now, done (.ok value) => post now value
  | _, done (.error _) => True
  | now, perform effect resume => ∀ later, now ≤ later → later.Permits reported effect ∧
    ∀ answer, later.Tells reported effect answer → (resume answer).Timely reported post later

variable {reported : ObjectKey → Instant → Prop} {now later : Instant}

theorem RunStatus.dated_empty (now : Instant) (reported : String → Instant → Prop) :
    Dated now reported {} where
  startTime _ started := by cases started
  completionTime _ completed := by cases completed
  ordered _ _ started := by cases started

theorem RunStatus.Dated.mono {s : RunStatus} {reported : String → Instant → Prop}
    (dated : s.Dated now reported) (passes : now ≤ later) : s.Dated later reported where
  startTime begun started := (dated.startTime begun started).trans passes
  completionTime ended completed := (dated.completionTime ended completed).trans passes
  ordered := dated.ordered

theorem Effect.Quiet.permitted {effect : Effect} (quiet : effect.Quiet) :
    now.Permits reported effect := by
  intro next written
  rw [quiet] at written
  cases written

namespace Pass

theorem Timely.mono {pass : Pass Unit} (timely : pass.Timely reported (fun _ _ => True) now)
    (passes : now ≤ later) : pass.Timely reported (fun _ _ => True) later := by
  cases pass with
  | done outcome => cases outcome <;> trivial
  | perform effect resume =>
    intro latest goes
    exact timely latest (passes.trans goes)

theorem timely_bind {pass : Pass α} {next : α → Pass β} {middle : Instant → α → Prop}
    {post : Instant → β → Prop} (first : pass.Timely reported middle now)
    (rest : ∀ later value, now ≤ later → middle later value →
      (next value).Timely reported post later) : (pass >>= next).Timely reported post now := by
  change (pass.bind next).Timely reported post now
  induction pass generalizing now with
  | done outcome =>
    cases outcome with
    | ok value => exact rest now value le_rfl first
    | error error => trivial
  | perform effect resume ih =>
    intro later passes
    obtain ⟨permitted, told⟩ := first later passes
    refine ⟨permitted, ?_⟩
    intro answer tells
    apply ih answer (told answer tells)
    intro latest value goes
    exact rest latest value (passes.trans goes)

/-- What writes no status of a run can be done at any time. -/
theorem Quiet.timely {pass : Pass α} (quiet : pass.Quiet) (now : Instant) :
    pass.Timely reported (fun _ _ => True) now := by
  induction pass generalizing now with
  | done outcome => cases outcome <;> trivial
  | perform effect resume ih =>
    intro later _
    exact ⟨quiet.1.permitted, fun answer _ => ih answer (quiet.2 answer) later⟩

theorem timely_send {request : Request} {post : Instant → request.Answer → Prop}
    (permitted : ∀ later, now ≤ later → later.Permits reported (.send request))
    (told : ∀ later value, now ≤ later → later.Tells reported (.send request) (.ok value) →
      post later value) : (send request).Timely reported post now := by
  intro later passes
  refine ⟨permitted later passes, ?_⟩
  intro answer tells
  cases answer with
  | ok value => exact told later value passes tells
  | error error => trivial

/-- A value that is stamped gets a time that has come by then. -/
theorem timely_stamped {read : Pass Readings} (reads : read.ReadsClock) {f : Readings → α}
    {post : Instant → α → Prop}
    (stamped : ∀ shown later, now ≤ shown.time → shown.time ≤ later → post later (f shown)) :
    (do return f (← read)).Timely reported post now := by
  cases reads
  all_goals
    intro first passes
    refine ⟨Effect.Quiet.permitted rfl, ?_⟩
    rintro _ rfl second goes
    refine ⟨Effect.Quiet.permitted rfl, ?_⟩
    rintro _ rfl
  case atStart => exact stamped _ _ passes goes
  case atEnd => exact stamped _ _ (passes.trans goes) le_rfl

end Pass

open Pass

namespace BuildRun

variable {run : BuildRun} {shown : Readings}

theorem dated_started {reported : String → Instant → Prop} (undecided : run.status.Undecided)
    (dated : run.status.Dated now reported) (passes : now ≤ shown.time) (goes : shown.time ≤ later)
    (name : String) : (run.started shown name).status.Dated later reported := by
  have open_ : (run.started shown name).status.completionTime = none := undecided.completionTime
  constructor
  · rintro begun ⟨⟩
    cases known : run.status.startTime with
    | none => exact goes
    | some old => exact (dated.startTime old known).trans (passes.trans goes)
  · intro ended completed
    rw [open_] at completed
    cases completed
  · intro begun ended _ completed
    rw [open_] at completed
    cases completed

theorem dated_failed {reported : String → Instant → Prop} (dated : run.status.Dated now reported)
    (passes : now ≤ shown.time) (goes : shown.time ≤ later) (failure : RunFailure) :
    (run.failed shown failure).status.Dated later reported := by
  have kept : (run.failed shown failure).status.startTime = run.status.startTime := rfl
  constructor
  · intro begun started
    exact (dated.startTime begun (kept.symm.trans started)).trans (passes.trans goes)
  · rintro _ ⟨⟩
    exact goes
  · rintro begun _ started ⟨⟩
    exact .inl ((dated.startTime begun (kept.symm.trans started)).trans passes)

/-- The completion time is the one that was reported of the task run, or the present. -/
theorem dated_observe {reported : String → Instant → Prop} (undecided : run.status.Undecided)
    (dated : run.status.Dated now reported) (passes : now ≤ shown.time)
    (goes : shown.time ≤ later) (recorded : run.status.taskRunName = some name) {taskRun : TaskRun}
    (told : ∀ ended, taskRun.status.completionTime = some ended →
      ended ≤ later ∧ reported name ended) :
    (Observation.observe shown run taskRun).status.Dated later reported := by
  obtain ⟨old, known⟩ := Option.isSome_iff_exists.mp (undecided.started (recorded ▸ rfl))
  have begun_le : old ≤ shown.time := (dated.startTime old known).trans passes
  have named := Observation.observe_taskRunName shown run taskRun
  obtain ⟨failure, output, sources, status, -⟩ := Observation.observe_status shown run taskRun
  have started : (Observation.observe shown run taskRun).status.startTime = some old := by
    rw [status]
    simp [Observation.conditions, RunStatus.setSucceeded, known]
  have completed : ∀ ended,
      (Observation.observe shown run taskRun).status.completionTime = some ended →
        ended = shown.time ∨ taskRun.status.completionTime = some ended := by
    intro ended
    rw [status]
    simp only [Observation.conditions, RunStatus.setSucceeded, undecided.completionTime]
    cases taskRun.status.completionTime <;> split <;> simp_all
  constructor
  · intro begun same
    cases started.symm.trans same
    exact begun_le.trans goes
  · intro ended same
    obtain rfl | found := completed ended same
    · exact goes
    · exact (told ended found).1
  · intro begun ended same same'
    cases started.symm.trans same
    obtain rfl | found := completed ended same'
    · exact .inl begun_le
    · exact .inr ⟨name, named.trans recorded, (told ended found).2⟩

/-- What a pass makes of a run has times that have passed. -/
def Dates (reported : ObjectKey → Instant → Prop) (run : BuildRun) (now : Instant)
    (next : BuildRun) : Prop :=
  next.metadata = run.metadata ∧
    next.status.Dated now fun taskRun => reported ⟨run.metadata.namespaceName, taskRun⟩

section Next

variable (undecided : run.status.Undecided)
  (dated : run.status.Dated now fun taskRun => reported ⟨run.metadata.namespaceName, taskRun⟩)

include dated

theorem timely_failed (passes : now ≤ later) (failure : RunFailure) :
    (do return run.failed (← readEnd) failure : Pass BuildRun).Timely reported (Dates reported run)
      later :=
  timely_stamped .atEnd fun _ _ onward goes =>
    ⟨rfl, dated_failed dated (passes.trans onward) goes failure⟩

include undecided

theorem timely_start (settings : Settings) :
    (run.start settings).Timely reported (Dates reported run) now := by
  have resolved : run.resolve.Quiet :=
    (only_resolve run).mono fun _ inquires => inquires.inquires.mute.quiet
  refine timely_bind (resolved.timely now) fun first outcome passes _ => ?_
  cases outcome with
  | error failure => exact timely_failed dated passes failure
  | ok value =>
    have checked : checkpoint.Quiet := only_checkpoint rfl
    refine timely_bind (checked.timely first) fun second _ onward _ => ?_
    refine timely_bind ((mute_taskRunName run).quiet.timely second) fun third name further _ => ?_
    refine timely_bind ((mute_ensureTaskRun ..).quiet.timely third) fun fourth _ finally_ _ => ?_
    have elapsed := ((passes.trans onward).trans further).trans finally_
    exact timely_stamped .atStart fun _ _ begun goes =>
      ⟨rfl, dated_started undecided dated (elapsed.trans begun) goes name⟩

theorem timely_follow (recorded : run.status.taskRunName = some name) :
    (run.follow name).Timely reported (Dates reported run) now := by
  have looked : (send (.getTaskRun run.metadata.namespaceName name)).Timely reported
      (fun told found => ∀ taskRun ended, found = some taskRun →
        taskRun.status.completionTime = some ended →
          ended ≤ told ∧ reported ⟨run.metadata.namespaceName, name⟩ ended) now := by
    apply timely_send
    · exact fun _ _ => Effect.Quiet.permitted rfl
    · rintro _ value _ tells taskRun ended rfl
      exact tells taskRun ended rfl
  refine timely_bind looked fun told found passes tells => ?_
  cases found with
  | none => exact timely_failed dated passes _
  | some taskRun =>
    refine timely_stamped .atEnd fun shown later onward goes =>
      ⟨by rw [Observation.observe_eq], ?_⟩
    refine dated_observe undecided dated (passes.trans onward) goes recorded
      fun ended completed => ?_
    obtain ⟨past, counted⟩ := tells taskRun ended rfl completed
    exact ⟨past.trans (onward.trans goes), counted⟩

theorem timely_next (settings : Settings) :
    (run.next settings).Timely reported (Dates reported run) now := by
  unfold BuildRun.next
  cases recorded : run.status.taskRunName with
  | none => exact timely_start undecided dated settings
  | some name => exact timely_follow undecided dated recorded

end Next

theorem timely_advance (settings : Settings) (reported : ObjectKey → Instant → Prop)
    (key : ObjectKey) (now : Instant) :
    (advance settings key.ns key.name).Timely reported (fun _ _ => True) now := by
  rw [advance_eq]
  have looked : (send (.getRun key.ns key.name)).Timely reported
      (fun told found => ∀ run, found = some run → run.metadata.key = key ∧ run.status.Sound ∧
        run.status.Dated told fun taskRun => reported ⟨key.ns, taskRun⟩) now := by
    apply timely_send
    · exact fun _ _ => Effect.Quiet.permitted rfl
    · rintro _ value _ tells run rfl
      exact tells run rfl
  refine timely_bind looked fun told found _ tells => ?_
  cases found with
  | none => exact trivial
  | some run =>
    obtain ⟨rfl, sound, dated⟩ := tells run rfl
    dsimp only
    split
    · exact trivial
    · next notDone =>
      have undecided := sound.undecided (by simpa using notDone)
      refine timely_bind (timely_next undecided dated settings) fun written next _ dates => ?_
      refine timely_send (fun later passes _ => ?_) fun _ _ _ _ => trivial
      rintro ⟨⟩
      rw [dates.1]
      exact dates.2.mono passes

end BuildRun

theorem Subject.timely_pass (settings : Settings) (reported : ObjectKey → Instant → Prop)
    (subject : Subject) (now : Instant) :
    (subject.pass settings).Timely reported (fun _ _ => True) now := by
  cases subject with
  | build key => exact (Build.quiet_register _ _).timely now
  | run key => exact BuildRun.timely_advance settings reported key now

end BuildController
