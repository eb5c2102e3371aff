import BuildController.ControlPlane.Session
import BuildController.Proofs.System

/-! The conduct of passes. What a pass does rests on what it was told: on the build or the run that
it was given when it looked up its subject, and on the runs that were listed as those of that build.
All that it asks for afterwards stays in the namespace of that object, and all that it writes is
that object, or a listed run, with one part changed. -/
namespace BuildController

namespace Pass

/-- As long as it is told only what it can be told, the pass performs only effects that are allowed,
and a value with which it ends has the property. -/
def Given (told : (effect : Effect) → effect.Answer → Prop) (allowed : Effect → Prop)
    (post : α → Prop) : Pass α → Prop
  | done (.ok value) => post value
  | done (.error _) => True
  | perform effect resume =>
    allowed effect ∧ ∀ answer, told effect answer → (resume answer).Given told allowed post

section Given
variable {told : (effect : Effect) → effect.Answer → Prop} {allowed : Effect → Prop}

theorem given_pure {post : α → Prop} (holds : post a) : (pure a : Pass α).Given told allowed post :=
  holds

theorem given_send {request : Request} {post : request.Answer → Prop}
    (permitted : allowed (.send request))
    (answered : ∀ value, told (.send request) (.ok value) → post value) :
    (send request).Given told allowed post := by
  refine ⟨permitted, fun answer heard => ?_⟩
  cases answer with
  | ok value => exact answered value heard
  | error error => trivial

/-- What a pass does whatever it is told, it does if it is told only what it can be told. -/
theorem Keeps.given {pass : Pass α} {post : α → Prop} (keeps : pass.Keeps allowed post) :
    pass.Given told allowed post := by
  induction pass with
  | done outcome => cases outcome <;> exact keeps
  | perform effect resume ih => exact ⟨keeps.1, fun answer _ => ih answer (keeps.2 answer)⟩

theorem given_bind {pass : Pass α} {next : α → Pass β} {middle : α → Prop} {post : β → Prop}
    (first : pass.Given told allowed middle)
    (rest : ∀ value, middle value → (next value).Given told allowed post) :
    (pass >>= next).Given told allowed post := by
  change (pass.bind next).Given told allowed post
  induction pass with
  | done outcome =>
    cases outcome with
    | ok value => exact rest value first
    | error error => trivial
  | perform effect resume ih =>
    exact ⟨first.1, fun answer heard => ih answer (first.2 answer heard)⟩

theorem Given.mono {pass : Pass α} {post : α → Prop} (given : pass.Given told allowed post)
    (permits : ∀ effect, allowed effect → wider effect) : pass.Given told wider post := by
  induction pass with
  | done outcome => cases outcome <;> exact given
  | perform effect resume ih =>
    exact ⟨permits effect given.1, fun answer heard => ih answer (given.2 answer heard)⟩

end Given

end Pass

/-- What passes can be told: the builds and runs that are found under a key, and the runs that are
listed as those of a build. -/
structure Reports where
  build : ObjectKey → Build → Prop
  run : ObjectKey → BuildRun → Prop
  listed : ObjectKey → BuildRun → Prop

namespace Reports

/-- The answer tells of builds and runs only what can be told. -/
def Covers (reports : Reports) : (effect : Effect) → effect.Answer → Prop
  | .send (.getBuild ns name), answer => ∀ build, answer = .ok (some build) →
    reports.build ⟨ns, name⟩ build
  | .send (.getRun ns name), answer => ∀ run, answer = .ok (some run) → reports.run ⟨ns, name⟩ run
  | .send (.listRunsOf ns build), answer => ∀ runs, answer = .ok runs → ∀ run ∈ runs,
    reports.listed ⟨ns, build⟩ run
  | _, _ => True

end Reports

/-- What a pass over the build under the key does, in view of what it was told. -/
inductive Build.Conducts (reports : Reports) (key : ObjectKey) : Effect → Prop
  | reads : Conducts reports key (.send (.getBuild key.ns key.name))
  | looks (found : reports.build key build) (looks : effect.LooksIn build.metadata.namespaceName) :
      Conducts reports key effect
  | lists (found : reports.build key build) :
      Conducts reports key
        (.send (.listRunsOf build.metadata.namespaceName build.metadata.name))
  | owns (found : reports.build key build) (listed : reports.listed build.metadata.key run) :
      Conducts reports key (.send (.updateRun (run.withOwners references)))
  | writes {read : Build} (found : reports.build key read) (status : BuildStatus) :
      Conducts reports key (.send (.updateBuildStatus { read with status }))

/-- The run with a status that names no task run but one of the run. -/
def BuildRun.Proposes (run next : BuildRun) : Prop :=
  next = { run with status := next.status } ∧ ∀ name, next.status.taskRunName = some name →
    run.status.taskRunName = some name ∨ run.Names name

/-- What a pass over the run under the key does, in view of what it was told. -/
inductive BuildRun.Conducts (settings : Settings) (reports : Reports) (key : ObjectKey) :
    Effect → Prop
  | reads : Conducts settings reports key (.send (.getRun key.ns key.name))
  | inquires {run : BuildRun} (found : reports.run key run)
      (inquires : effect.InquiresIn run.metadata.namespaceName) :
      Conducts settings reports key effect
  | clock : Conducts settings reports key .clock
  | randomSuffix : Conducts settings reports key .randomSuffix
  | looksUp {run : BuildRun} (found : reports.run key run) :
      Conducts settings reports key (.send (.getTaskRun run.metadata.namespaceName name))
  | creates {run : BuildRun} {strategy : BuildStrategy} (found : reports.run key run)
      (names : run.Names name) (build : Build) :
      Conducts settings reports key
        (.send (.createTaskRun (TaskRun.plan settings name build run strategy.spec)))
  | writes {run proposed : BuildRun} (found : reports.run key run)
      (proposes : run.Proposes proposed) :
      Conducts settings reports key (.send (.updateRunStatus proposed))

/-- An inquiry writes nothing. -/
theorem Effect.InquiresIn.write?_eq_none {request : Request}
    (inquires : Effect.InquiresIn ns (.send request)) : request.write? = none := by
  obtain looks | ⟨name, same⟩ := inquires
  · cases request <;> first | rfl | cases looks
  · cases same
    rfl

open Pass

variable {reports : Reports} {key : ObjectKey}

namespace Build

variable {build : Build}

theorem given_adjustRuns (found : reports.build key build) (retain : Bool) {runs : List BuildRun}
    (listed : ∀ run ∈ runs, reports.listed build.metadata.key run) :
    (adjustRuns build retain runs).Given reports.Covers (Conducts reports key) fun _ => True := by
  induction runs with
  | nil => exact given_pure trivial
  | cons run rest ih =>
    obtain ⟨first, later⟩ := List.forall_mem_cons.mp listed
    unfold adjustRuns
    split
    · exact ih later
    · exact given_pure trivial
    · exact given_bind (given_send (.owns found first) fun _ _ => trivial) fun _ _ => ih later

theorem given_violation? (found : reports.build key build) (concern : Concern) :
    (concern.violation? build).Given reports.Covers (Conducts reports key) fun _ => True := by
  by_cases writer : concern = .ownerReferences
  · subst writer
    change (ownershipViolation? build).Given _ _ _
    unfold ownershipViolation?
    split
    · exact given_pure trivial
    · refine given_bind (given_send (.lists found) fun runs heard => heard runs rfl) ?_
      exact fun runs listed => given_adjustRuns found _ listed
  · exact ((Concern.only_violation? writer build).mono fun _ => Conducts.looks found).given

theorem given_firstViolation? (found : reports.build key build) (concerns : List Concern) :
    (Concern.firstViolation? build concerns).Given reports.Covers (Conducts reports key)
      fun _ => True := by
  induction concerns with
  | nil => exact given_pure trivial
  | cons concern rest ih =>
    have checked : checkpoint.Given reports.Covers (Conducts reports key) fun _ => True :=
      (only_checkpoint (.looks found trivial)).given
    refine given_bind checked fun _ _ => given_bind (given_violation? found concern) ?_
    intro violation? _
    cases violation? with
    | none => exact ih
    | some violation => exact given_pure trivial

theorem given_register (reports : Reports) (key : ObjectKey) :
    (register key.ns key.name).Given reports.Covers (Conducts reports key) fun _ => True := by
  refine given_bind (given_send .reads fun _ heard => heard) fun answer heard => ?_
  cases answer with
  | none => exact given_pure trivial
  | some build =>
    have found : reports.build key build := heard build rfl
    refine given_bind (given_firstViolation? found _) fun _ _ => ?_
    exact given_send (.writes found _) fun _ _ => trivial

end Build

namespace BuildRun

variable {run : BuildRun} {settings : Settings}

theorem given_taskRunName (run : BuildRun) :
    run.taskRunName.Given reports.Covers (Conducts settings reports key) run.Names := by
  unfold taskRunName
  cases derived : TaskRunPlan.nameSuffix? run.metadata.uid with
  | some suffix => exact given_pure (Names.of_suffix derived)
  | none =>
    have names (suffix : String) : run.Names (TaskRunPlan.nameWith run suffix) := by
      rw [Names, derived]
      exact ⟨suffix, rfl⟩
    exact ⟨.randomSuffix, fun suffix _ => names suffix⟩

theorem given_ensureTaskRun (found : reports.run key run) (name : String) (build : Build)
    (strategy : BuildStrategy) : (run.ensureTaskRun settings name build strategy).Given
      reports.Covers (Conducts settings reports key) fun _ => True := by
  refine given_bind (given_send (.looksUp found) fun _ _ => trivial) fun answer _ => ?_
  cases answer with
  | some taskRun => exact given_pure trivial
  | none =>
    refine given_bind (given_taskRunName run) fun fresh names => ?_
    exact given_send (.creates found names build) fun _ _ => trivial

theorem given_failed (run : BuildRun) (failure : RunFailure) :
    (do return run.failed (← Pass.readEnd) failure : Pass BuildRun).Given reports.Covers
      (Conducts settings reports key) run.Proposes :=
  given_bind (ReadsClock.atEnd.only .clock).given fun _ _ => given_pure ⟨rfl, fun _ => .inl⟩

theorem given_start (found : reports.run key run) :
    (run.start settings).Given reports.Covers (Conducts settings reports key) run.Proposes := by
  have resolved : run.resolve.Only (Conducts settings reports key) :=
    (only_resolve run).mono fun _ => .inquires found
  refine given_bind resolved.given fun outcome _ => ?_
  cases outcome with
  | error failure => exact given_failed run failure
  | ok value =>
    have checked : checkpoint.Given reports.Covers (Conducts settings reports key)
        fun _ => True := (only_checkpoint (.inquires found (.inl trivial))).given
    refine given_bind checked fun _ _ => given_bind (given_taskRunName run) fun name names => ?_
    refine given_bind (given_ensureTaskRun found _ _ _) fun _ _ => ?_
    refine given_bind (ReadsClock.atStart.only .clock).given fun now _ => given_pure ⟨rfl, ?_⟩
    rintro _ ⟨⟩
    exact .inr names

theorem given_follow (found : reports.run key run) (name : String) :
    (run.follow name).Given reports.Covers (Conducts settings reports key) run.Proposes := by
  refine given_bind (given_send (.looksUp found) fun _ _ => trivial) fun answer _ => ?_
  cases answer with
  | none => exact given_failed run _
  | some taskRun =>
    refine given_bind (ReadsClock.atEnd.only .clock).given fun now _ => given_pure ?_
    refine ⟨Observation.observe_eq _ _ _, fun name named => .inl ?_⟩
    rw [← Observation.observe_taskRunName now run taskRun, named]

theorem given_advance (settings : Settings) (reports : Reports) (key : ObjectKey) :
    (advance settings key.ns key.name).Given reports.Covers (Conducts settings reports key)
      fun _ => True := by
  rw [advance_eq]
  refine given_bind (given_send .reads fun _ heard => heard) fun answer heard => ?_
  cases answer with
  | none => exact given_pure trivial
  | some run =>
    have found : reports.run key run := heard run rfl
    have proposed : (run.next settings).Given reports.Covers (Conducts settings reports key)
        run.Proposes := by
      unfold BuildRun.next
      split
      · exact given_start found
      · exact given_follow found _
    dsimp only
    split
    · exact given_pure trivial
    · refine given_bind proposed fun next proposes =>
        given_send (.writes found proposes) fun _ _ => trivial

end BuildRun

namespace Subject

/-- What the pass over a subject does, in view of what it was told. -/
def Conducts (settings : Settings) (reports : Reports) : Subject → Effect → Prop
  | build key => Build.Conducts reports key
  | run key => BuildRun.Conducts settings reports key

theorem given_pass (settings : Settings) (reports : Reports) (subject : Subject) :
    (subject.pass settings).Given reports.Covers (subject.Conducts settings reports)
      fun _ => True := by
  cases subject with
  | build key => exact Build.given_register reports key
  | run key => exact BuildRun.given_advance settings reports key

namespace Conducts

variable {subject : Subject}

/-- The status of a build that is written is that of the build that was found. -/
theorem of_updateBuildStatus {written : Build}
    (conducts : subject.Conducts settings reports (.send (.updateBuildStatus written))) :
    ∃ key build, reports.build key build ∧ written = { build with status := written.status } := by
  cases subject with
  | build key =>
    cases conducts with
    | looks _ looks => cases looks
    | writes found => exact ⟨key, _, found, rfl⟩
  | run key =>
    cases conducts with
    | inquires _ inquires => cases inquires.write?_eq_none

/-- Owners are written of runs that were listed. -/
theorem of_updateRun {written : BuildRun}
    (conducts : subject.Conducts settings reports (.send (.updateRun written))) :
    ∃ key run references, reports.listed key run ∧ written = run.withOwners references := by
  cases subject with
  | build key =>
    cases conducts with
    | looks _ looks => cases looks
    | owns _ listed => exact ⟨_, _, _, listed, rfl⟩
  | run key =>
    cases conducts with
    | inquires _ inquires => cases inquires.write?_eq_none

/-- The status of a run that is written is one of the run that was found. -/
theorem of_updateRunStatus {written : BuildRun}
    (conducts : subject.Conducts settings reports (.send (.updateRunStatus written))) :
    ∃ key run, reports.run key run ∧ run.Proposes written := by
  cases subject with
  | build key =>
    cases conducts with
    | looks _ looks => cases looks
  | run key =>
    cases conducts with
    | inquires _ inquires => cases inquires.write?_eq_none
    | writes found proposes => exact ⟨key, _, found, proposes⟩

/-- A task run is created for the run that was found, under one of its names. -/
theorem of_createTaskRun {taskRun : TaskRun}
    (conducts : subject.Conducts settings reports (.send (.createTaskRun taskRun))) :
    ∃ key run name build strategy, reports.run key run ∧ run.Names name ∧
      taskRun = TaskRun.plan settings name build run strategy := by
  cases subject with
  | build key =>
    cases conducts with
    | looks _ looks => cases looks
  | run key =>
    cases conducts with
    | inquires _ inquires => cases inquires.write?_eq_none
    | creates found names build => exact ⟨key, _, _, build, _, found, names, rfl⟩

end Conducts

end Subject

/-- A control plane tells of the builds and runs that it stores. -/
theorem Cluster.Meets.tells {c d : Cluster} {effect : Effect} {answer : effect.Answer}
    (met : Meets hazards c effect answer d)
    (builds : ∀ key build, c.builds.get? key = some build → reports.build key build)
    (runs : ∀ key run, c.runs.get? key = some run → reports.run key run)
    (listed : ∀ ns name build run, c.runs.get? ⟨ns, name⟩ = some run →
      reports.listed ⟨ns, build⟩ run) : reports.Covers effect answer := by
  cases effect with
  | send request =>
    cases request with
    | getBuild ns name =>
      rintro build rfl
      exact builds _ build (Except.ok.inj met.answered)
    | getRun ns name =>
      rintro run rfl
      exact runs _ run (Except.ok.inj met.answered)
    | listRunsOf ns build =>
      rintro _ rfl run member
      rw [← Except.ok.inj met.answered] at member
      obtain ⟨name, stored⟩ := mem_inNamespace.mp (List.mem_filter.mp member).1
      exact listed ns name build run stored
    | _ => trivial
  | _ => trivial

end BuildController
