import BuildController.Api.Client
import BuildController.Json.Printer
import BuildController.Proofs.Heeding
import BuildController.Proofs.Leftovers

/-! Faults of a control plane that is reached over HTTP. A response is sound if it answers its
request: with what the request asks for, or, if something is looked up, by saying that it is not
there. Any other one, or none at all, is a fault; it ends the pass, and it decides nothing. -/
namespace BuildController

namespace Request

/-- The request looks something up that need not be there. -/
def IsLookup : Request → Prop
  | getBuild .. | getRun .. | getStrategy .. | getClusterStrategy _ => True
  | secretExists .. | getTaskRun .. => True
  | _ => False

/-- The text is of the type that the request asks for. -/
def Decodes (request : Request) (text : String) : Prop :=
  match request with
  | getBuild .. | updateBuildStatus _ => ∃ build, Wire.ofText? Build text = some build
  | listBuilds _ => ∃ builds, Wire.ofText? (ObjectList Build) text = some builds
  | getRun .. | updateRun _ | updateRunStatus _ => ∃ run, Wire.ofText? BuildRun text = some run
  | listRuns _ | listRunsOf .. => ∃ runs, Wire.ofText? (ObjectList BuildRun) text = some runs
  | getStrategy .. | getClusterStrategy _ =>
    ∃ strategy, Wire.ofText? BuildStrategy text = some strategy
  | secretExists .. => ∃ header, Wire.ofText? SecretHeader text = some header
  | getTaskRun .. | createTaskRun _ => ∃ taskRun, Wire.ofText? TaskRun text = some taskRun

end Request

/-- A request of a pass with its response. There is none if the transport failed. -/
structure Exchange where
  request : Request
  response : Option HttpResponse

namespace Exchange

/-- The transport fails, the control plane refuses, or what it says cannot be read. -/
inductive Faulty : Exchange → Prop
  | transport : Faulty ⟨sent, none⟩
  | refused (fails : got.isSuccess = false) (present : sent.IsLookup → got.status ≠ 404) :
      Faulty ⟨sent, some got⟩
  | undecodable (succeeds : got.isSuccess = true) (unreadable : ¬sent.Decodes got.content) :
      Faulty ⟨sent, some got⟩

/-- The request is answered, or what it looks up is not there. -/
inductive Sound : Exchange → Prop
  | decoded (succeeds : got.isSuccess = true) (readable : sent.Decodes got.content) :
      Sound ⟨sent, some got⟩
  | missing (lookup : sent.IsLookup) (status : got.status = 404) : Sound ⟨sent, some got⟩

end Exchange

namespace Client

/-- What becomes of a request if HTTP is carried so. -/
def exchange (client : Client) (transport : HttpRequest → Option HttpResponse)
    (request : Request) : Exchange :=
  ⟨request, (client.httpRequest? request.endpoint).bind transport⟩

/-- How effects go over HTTP, whatever carries it: every request gets some response or none. What a
client has sent is kept. -/
def Meets (client : Client) : Handling (List Exchange)
  | before, .send request, answer, after =>
    ∃ transport, answer = client.send transport request ∧
      after = before ++ [client.exchange transport request]
  | before, .probe _, _, after | before, .clock, _, after => after = before
  | before, .randomSuffix, _, after | before, .isCancelled, _, after => after = before

/-- How a control plane is reached over HTTP: all kinds of things can happen to a request, but one
that is answered is answered by the control plane. -/
def Reaches (client : Client) : Handling (Cluster × List Exchange)
  | before, effect, answer, after =>
    Cluster.Meets .all before.1 effect answer after.1 ∧
      client.Meets before.2 effect answer after.2

end Client

theorem HttpResponse.isNotFound_error {response : HttpResponse} (path : String) :
    (response.error path).isNotFound = true ↔ response.status = 404 := by
  unfold error
  split
  · next missing => simp [RequestError.isNotFound, missing]
  · next conflict => simp [RequestError.isNotFound, conflict]
  · next code _ _ => simp [RequestError.isNotFound]

theorem HttpResponse.not_isSuccess_of_missing {response : HttpResponse}
    (missing : response.status = 404) : response.isSuccess = false := by
  simp [isSuccess, missing]

namespace Endpoint

variable {α : Type} [Wire α] {path : String} {response : HttpResponse}

theorem isOk_object : (object α path response).isOk = true ↔
    response.isSuccess = true ∧ ∃ value, Wire.ofText? α response.content = some value := by
  unfold object
  split
  · next succeeds =>
    cases read : Wire.ofText? α response.content <;> simp [succeeds, Except.isOk, Except.toBool]
  · next fails => simp [fails, Except.isOk, Except.toBool]

theorem isOk_items : (items α path response).isOk = true ↔ response.isSuccess = true ∧
    ∃ value, Wire.ofText? (ObjectList α) response.content = some value := by
  rw [← isOk_object, items]
  cases object (ObjectList α) path response <;> rfl

/-- Something that is not there is an answer to a lookup, and the only one besides the object. -/
theorem isOk_lookup : (lookup α path response).isOk = true ↔
    (response.isSuccess = true ∧ ∃ value, Wire.ofText? α response.content = some value) ∨
      response.status = 404 := by
  rw [← isOk_object, lookup]
  cases found : object α path response with
  | ok value => simp [Except.isOk, Except.toBool]
  | error error =>
    have cause : error.isNotFound = true ↔ response.status = 404 := by
      unfold object at found
      split at found
      · next succeeds =>
        split at found <;> cases found
        refine iff_of_false nofun fun missing => ?_
        rw [HttpResponse.not_isSuccess_of_missing missing] at succeeds
        cases succeeds
      · cases found
        exact HttpResponse.isNotFound_error path
    by_cases missing : error.isNotFound = true
    · simp [missing, cause.mp missing, Except.isOk, Except.toBool]
    · have found : response.status ≠ 404 := fun status => missing (cause.mpr status)
      simp [missing, found, Except.isOk, Except.toBool]

end Endpoint

namespace Exchange

variable {sent : Request} {got : HttpResponse}

theorem sound_iff : Sound ⟨sent, some got⟩ ↔
    (got.isSuccess = true ∧ sent.Decodes got.content) ∨ sent.IsLookup ∧ got.status = 404 := by
  constructor
  · rintro (⟨succeeds, readable⟩ | ⟨lookup, status⟩)
    · exact .inl ⟨succeeds, readable⟩
    · exact .inr ⟨lookup, status⟩
  · rintro (⟨succeeds, readable⟩ | ⟨lookup, status⟩)
    · exact .decoded succeeds readable
    · exact .missing lookup status

theorem faulty_iff (x : Exchange) : x.Faulty ↔ ¬x.Sound := by
  obtain ⟨sent, _ | got⟩ := x
  · exact iff_of_true .transport nofun
  · rw [sound_iff]
    constructor
    · rintro (_ | ⟨fails, present⟩ | ⟨succeeds, unreadable⟩)
      · rintro (⟨succeeds, -⟩ | ⟨lookup, status⟩)
        · rw [fails] at succeeds
          cases succeeds
        · exact present lookup status
      · rintro (⟨-, readable⟩ | ⟨-, status⟩)
        · exact unreadable readable
        · rw [HttpResponse.not_isSuccess_of_missing status] at succeeds
          cases succeeds
    · intro unsound
      cases succeeds : got.isSuccess with
      | false => exact .refused succeeds fun lookup status => unsound (.inr ⟨lookup, status⟩)
      | true => exact .undecodable succeeds fun readable => unsound (.inl ⟨succeeds, readable⟩)

end Exchange

/-- A response is an answer to a request exactly if it is sound. -/
theorem Request.isOk_answer {path : String} {request : Request} {got : HttpResponse} :
    (request.endpoint.answer path got).isOk = true ↔ Exchange.Sound ⟨request, some got⟩ := by
  rw [Exchange.sound_iff]
  cases request with
  | getBuild | getRun | getStrategy | getClusterStrategy | secretExists | getTaskRun =>
    exact Endpoint.isOk_lookup.trans (by simp [IsLookup, Decodes])
  | listBuilds | listRuns | listRunsOf =>
    exact Endpoint.isOk_items.trans (by simp [IsLookup, Decodes])
  | updateBuildStatus =>
    exact (Endpoint.isOk_object (α := Build)).trans (by simp [IsLookup, Decodes])
  | updateRun | updateRunStatus =>
    exact (Endpoint.isOk_object (α := BuildRun)).trans (by simp [IsLookup, Decodes])
  | createTaskRun =>
    exact (Endpoint.isOk_object (α := TaskRun)).trans (by simp [IsLookup, Decodes])

theorem Client.isOk_send (client : Client) (transport : HttpRequest → Option HttpResponse)
    (request : Request) : (client.send transport request).isOk = true ↔
      (client.exchange transport request).Sound := by
  have mapped : (client.send transport request).isOk =
      (client.call transport request.endpoint).isOk := by
    unfold send
    cases client.call transport request.endpoint <;> rfl
  rw [mapped, call, exchange]
  cases client.httpRequest? request.endpoint with
  | none => exact iff_of_false nofun (fun sound => nomatch sound)
  | some http =>
    dsimp only [Option.bind_some]
    cases transport http with
    | none => exact iff_of_false nofun (fun sound => nomatch sound)
    | some got => exact Request.isOk_answer

theorem Client.send_of_silence (client : Client) (request : Request) :
    client.send (fun _ => none) request = .error .transport := by
  unfold send call
  cases client.httpRequest? request.endpoint <;> rfl

namespace Pass

variable {client : Client} {pass : Pass α} {before after : List Exchange}

/-- Only the last response to a pass can be faulty, and if it is, the pass ends with its error. -/
theorem Heeds.exchanges (heeds : pass.Heeds) (ended : pass.Ends client.Meets before r after) :
    ∃ sent, after = before ++ sent ∧ (∀ x ∈ sent.dropLast, x.Sound) ∧
      ∀ x ∈ sent, x.Faulty → ∃ error, r = .error (.request error) := by
  induction pass generalizing before with
  | done outcome => exact ⟨[], by simp [ended.2]⟩
  | perform effect resume ih =>
    obtain ⟨passesOn, heeds⟩ := heeds
    obtain ⟨answer, middle, handled, rest⟩ := ended
    cases effect with
    | send request =>
      obtain ⟨transport, answered, rfl⟩ := handled
      have sound := client.isOk_send transport request
      rw [← answered] at sound
      cases answer with
      | ok value =>
        obtain ⟨sent, rfl, early, last⟩ := ih _ (heeds _) rest
        have first := sound.mp rfl
        refine ⟨_ :: sent, List.append_assoc .., ?_, ?_⟩
        · cases sent with
          | nil => simp
          | cons next later => exact List.forall_mem_cons.mpr ⟨first, early⟩
        · refine List.forall_mem_cons.mpr ⟨fun faulty => ?_, last⟩
          exact ((Exchange.faulty_iff _).mp faulty first).elim
      | error error =>
        rw [passesOn error] at rest
        obtain ⟨rfl, rfl⟩ := rest
        exact ⟨_, rfl, by simp, fun _ _ _ => ⟨error, rfl⟩⟩
    | probe | clock | randomSuffix | isCancelled =>
      cases handled
      exact ih _ (heeds _) rest

end Pass

theorem RunStatus.Says.status_eq {s : RunStatus} (reported : s.Says status reason message)
    (also : s.Says other reason' message') : other = status := by
  obtain ⟨_, found⟩ := reported
  obtain ⟨_, again⟩ := also
  rw [found] at again
  cases again
  rfl

namespace Cluster

/-- The subject is turned down: a build cannot be used, or a run has failed. -/
def Rejects (c : Cluster) : Subject → Prop
  | .build key => ∃ build, c.builds.get? key = some build ∧ build.status.registered = some .false
  | .run key => ∃ run reason message, c.runs.get? key = some run ∧
    run.status.Says .false reason message

variable {hazards : Hazards} {c d : Cluster} {run : BuildRun}

/-- If the control plane gives a reason to fail the run, it gives it every time. -/
theorem Decides.fails_again (decides : c.Decides settings run next prepared)
    (fails : next.status.Says .false reason message)
    (again : c.Decides settings run next' prepared') :
    ∃ reason message, next'.status.Says .false reason message := by
  cases decides with
  | started prepares now => cases (run.started_says now _).status_eq fails
  | failed unstarted failing =>
    obtain ⟨_, _, ⟨_, _, _, admits, _⟩, _⟩ | ⟨_, now, _, rfl, _⟩ := again.of_unstarted unstarted
    · rw [failing] at admits
      cases admits
    · exact ⟨_, _, run.failed_says now _⟩
  | lost recorded missing =>
    -- The task run that the status names is looked up again, and it is still not there.
    obtain ⟨-, now, rfl⟩ := again.of_recorded recorded
    rw [missing]
    exact ⟨_, _, run.failed_says now _⟩
  | @observed _ taskRun recorded found now =>
    obtain ⟨-, now', rfl⟩ := again.of_recorded recorded
    rw [found]
    have verdict := (Observation.observe_says now run taskRun).status_eq fails
    have reported := Observation.observe_says now' run taskRun
    exact ⟨_, _, verdict ▸ reported⟩

end Cluster

open Cluster

variable {hazards : Hazards} {c d : Cluster} {key : ObjectKey}

/-- If a pass turns a build down, then the build violates a concern. -/
theorem Build.rejects_of_register (filed : c.Filed)
    (ended : (register key.ns key.name).Ends (Meets hazards) c r d)
    (fine : ¬c.Rejects (.build key)) (rejects : d.Rejects (.build key)) :
    (∃ r d, (register key.ns key.name).Ends (Meets .calm) c r d) ∧
      ∀ r' d', (register key.ns key.name).Ends (Meets .calm) c r' d' → d'.Rejects (.build key) := by
  cases stored : c.builds.get? key with
  | none =>
    cases register_missing stored ended
    exact (fine rejects).elim
  | some build =>
    have enrolls := register_only filed stored ended
    refine ⟨⟨_, _, ends_register filed stored⟩, fun r' d' ended' => ?_⟩
    obtain ⟨-, rfl⟩ := (register_only filed stored ended').of_calm
    cases filed.builds key build stored
    refine ⟨_, OrderedMap.get?_insert_self _ _ _, ?_⟩
    have written : ((c.withRuns (build.settle (c.runsOf build))).withBuild
        { build with status := .ofViolation (c.violation? build) }).Rejects
          (.build build.metadata.key) → (BuildStatus.ofViolation (c.violation? build)).registered =
            some .false := by
      rintro ⟨checked, kept, rejected⟩
      cases (OrderedMap.get?_insert_self _ _ _).symm.trans kept
      exact rejected
    cases enrolls with
    | written => exact written rejects
    | lost => exact written rejects
    | aborted =>
      obtain ⟨checked, kept, rejected⟩ := rejects
      rw [withRuns_builds] at kept
      exact (fine ⟨checked, kept, rejected⟩).elim

namespace BuildRun

variable {run : BuildRun}

theorem rejects_of_decides {next : BuildRun} (stored : c.runs.get? run.metadata.key = some run)
    (notDone : run.status.isDone = false) (decides : c.Decides settings run next prepared)
    (rejects : (prepared.withRun next).Rejects (.run run.metadata.key))
    (ended : (advance settings run.metadata.namespaceName run.metadata.name).Ends (Meets .calm) c r
      d) : d.Rejects (.run run.metadata.key) := by
  have same {next : BuildRun} {prepared : Cluster}
      (decides : c.Decides settings run next prepared) :
      next.metadata.key = run.metadata.key := by rw [decides.eq]
  obtain ⟨written, reason, message, kept, fails⟩ := rejects
  rw [← same decides] at kept
  cases (OrderedMap.get?_insert_self _ _ _).symm.trans kept
  obtain ⟨done, -, -⟩ | ⟨-, next', prepared', again, rfl, rfl⟩ | ⟨-, unstarted, _, waits, -, -⟩ :=
    ((advance_calm_iff stored).mp ended).of_calm
  · rw [notDone] at done
    cases done
  · obtain ⟨reason, message, failed⟩ := decides.fails_again fails again
    refine ⟨next', reason, message, ?_, failed⟩
    rw [← same again]
    exact OrderedMap.get?_insert_self _ _ _
  · exact (decides.not_waits unstarted waits).elim

/-- If a pass fails a run, then the control plane gives it a reason. -/
theorem rejects_of_advance (keyed : c.Keyed)
    (ended : (advance settings key.ns key.name).Ends (Meets hazards) c r d)
    (fine : ¬c.Rejects (.run key)) (rejects : d.Rejects (.run key)) :
    (∃ r d, (advance settings key.ns key.name).Ends (Meets .calm) c r d) ∧
      ∀ r' d', (advance settings key.ns key.name).Ends (Meets .calm) c r' d' →
        d'.Rejects (.run key) := by
  cases stored : c.runs.get? key with
  | none =>
    cases advance_missing stored ended
    exact (fine rejects).elim
  | some run =>
    cases keyed key run stored
    obtain ⟨r', d', advances⟩ := exists_advances settings c run
    refine ⟨⟨r', d', (advance_calm_iff stored).mpr advances⟩, fun r' d' ended' => ?_⟩
    cases advance_only stored ended with
    | finished | deferred | interrupted => exact (fine rejects).elim
    | aborted _ _ prepares =>
      -- The task run may have been created, but the run itself is as it was.
      obtain ⟨_, _, _, _, _, ensures⟩ := prepares
      obtain ⟨written, reason, message, kept, fails⟩ := rejects
      rw [ensures.runs] at kept
      exact (fine ⟨written, reason, message, kept, fails⟩).elim
    | written notDone decides => exact rejects_of_decides stored notDone decides rejects ended'
    | lost notDone _ _ decides => exact rejects_of_decides stored notDone decides rejects ended'

end BuildRun

/-- Faults are no verdicts. Whatever the responses to a pass are, it sends nothing after a faulty
one and ends with its error; so when it writes a status, all responses before were sound. And
whatever becomes of its requests on the way to a control plane, a pass turns its subject down only
if every pass does that nothing interferes with. -/
theorem Subject.faults_no_verdicts (client : Client) (settings : Settings) (subject : Subject) :
    (∀ r log, (subject.pass settings).Ends client.Meets [] r log →
      ∀ before x after, log = before ++ x :: after →
        (x.Faulty → after = [] ∧ ∃ error, r = .error (.request error)) ∧
          ∀ y ∈ before, y.Sound) ∧
    ∀ c d r log, c.Filed → (subject.pass settings).Ends client.Reaches (c, []) r (d, log) →
      ¬c.Rejects subject → d.Rejects subject →
        (∃ r d, (subject.pass settings).Ends (Meets .calm) c r d) ∧
          ∀ r d, (subject.pass settings).Ends (Meets .calm) c r d → d.Rejects subject := by
  constructor
  · intro r log ended before x after parts
    obtain ⟨sent, rfl, early, last⟩ := (subject.heeds_pass settings).exchanges ended
    rw [parts, List.dropLast_append_of_ne_nil (List.cons_ne_nil _ _),
      List.forall_mem_append] at early
    refine ⟨fun faulty => ⟨?_, last x (by simp [parts]) faulty⟩, early.1⟩
    cases after with
    | nil => rfl
    | cons next later =>
      exact ((Exchange.faulty_iff x).mp faulty (early.2 x (by simp))).elim
  · intro c d r log filed ended fine rejects
    have met : (subject.pass settings).Ends (Meets .all) c r d :=
      ended.part Prod.fst fun _ _ _ _ handled => handled.1
    cases subject with
    | build key => exact Build.rejects_of_register filed met fine rejects
    | run key => exact BuildRun.rejects_of_advance filed.runs met fine rejects

/-- A run whose build is missing fails, even if the write of its status is believed to be lost. -/
theorem Subject.faults_no_verdicts_lost :
    let run : BuildRun :=
      { metadata := { name := "run", ns := some "ci" }, spec := { build := { name := "app" } } }
    let c := Cluster.put {} (.run run)
    let client : Client := { baseUrl := "http://localhost:8001" }
    ∃ x y z d, (BuildRun.advance {} "ci" "run").Ends client.Reaches (c, [])
        (.error (.request .transport)) (d, [x, y, z]) ∧ x.Sound ∧ y.Sound ∧
      ∀ r d, (BuildRun.advance {} "ci" "run").Ends (Meets .calm) c r d →
        d.Rejects (.run ⟨"ci", "run"⟩) := by
  intro run c client
  let failed := run.failed default (.buildNotFound "app")
  let found : HttpRequest → Option HttpResponse := fun _ => some ⟨200, (Wire.encode run).render⟩
  let gone : HttpRequest → Option HttpResponse := fun _ => some ⟨404, ""⟩
  have read : client.send found (.getRun "ci" "run") = .ok (some run) := by decide +kernel
  have missing : client.send gone (.getBuild "ci" "app") = .ok none := by decide +kernel
  have lost : client.send (fun _ => none) (.updateRunStatus failed) = .error .transport :=
    client.send_of_silence _
  let first := client.exchange found (.getRun "ci" "run")
  let second := client.exchange gone (.getBuild "ci" "app")
  let third := client.exchange (fun _ => none) (.updateRunStatus failed)
  have ended : (BuildRun.advance {} "ci" "run").Ends client.Reaches (c, [])
      (.error (.request .transport)) (c.withRun failed, [first, second, third]) := by
    rw [BuildRun.advance_eq]
    refine Pass.ends_bind.mpr (.inl ⟨some run, (c, [first]), ?_, ?_⟩)
    · exact Pass.ends_send.mpr (.inl ⟨_, ⟨.inl ⟨_, rfl, rfl⟩, _, read.symm, rfl⟩, rfl⟩)
    · refine Pass.ends_bind.mpr (.inl ⟨failed, (c, [first, second]), ?_, ?_⟩)
      · refine Pass.ends_bind.mpr (.inl ⟨.error (.buildNotFound "app"), (c, [first, second]), ?_,
          default, _, ⟨rfl, rfl⟩, default, _, ⟨rfl, rfl⟩, rfl, rfl⟩)
        refine Pass.ends_bind.mpr (.inl ⟨.error (.buildNotFound "app"), _, ?_, rfl, rfl⟩)
        refine Pass.ends_bind.mpr (.inl ⟨none, _, ?_, rfl, rfl⟩)
        exact Pass.ends_send.mpr (.inl ⟨_, ⟨.inl ⟨_, rfl, rfl⟩, _, missing.symm, rfl⟩, rfl⟩)
      · exact Pass.ends_send.mpr (.inr ⟨_, ⟨.inr ⟨trivial, .inr ⟨trivial, rfl⟩, _, rfl⟩, _,
          lost.symm, rfl⟩, rfl⟩)
  have filed : c.Filed := filed_empty.put (.run run)
  have fine : ¬c.Rejects (.run ⟨"ci", "run"⟩) := by
    rintro ⟨old, _, _, stored, _, failed⟩
    cases (OrderedMap.get?_insert_self _ _ _).symm.trans stored
    cases failed
  have rejects : (c.withRun failed).Rejects (.run ⟨"ci", "run"⟩) :=
    ⟨failed, _, _, OrderedMap.get?_insert_self _ _ _, run.failed_says default _⟩
  obtain ⟨answered, decided⟩ := faults_no_verdicts client {} (.run ⟨"ci", "run"⟩)
  obtain ⟨-, sound⟩ := answered _ _ (ended.part Prod.snd fun _ _ _ _ handled => handled.2)
    [first, second] third [] rfl
  exact ⟨first, second, third, _, ended, sound _ (by simp), sound _ (by simp),
    (decided c _ _ _ filed ended fine rejects).2⟩

end BuildController
