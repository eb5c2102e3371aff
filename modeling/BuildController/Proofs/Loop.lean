import BuildController.ControlPlane.Session
import BuildController.Proofs.Schedule

/-! The control loop is one way in which the system can go. A machine that is faithful to a control
plane takes every pass, every resync and in the end the whole loop along a path of the system on
which one pass is under way at a time. -/
namespace BuildController

/-- What the machine does to the control plane is what hazards allow, with the answer that it gives
or, if it gives none, with some answer. -/
def Machine.Faithful (machine : Machine σ) (view : σ → Cluster) : Prop :=
  ∀ effect state, ∃ answer,
    (∀ given, (machine.perform effect state).1 = .answer given → given = answer) ∧
      Cluster.Meets .all (view state) effect answer (view (machine.perform effect state).2)

namespace Session

theorem record_cluster (session : Session) (call : Call) :
    (session.record call).2.cluster = session.cluster := by
  unfold record
  dsimp only
  split <;> rfl

theorem meetFault_cluster (session : Session) (operation : Operation) :
    (session.meetFault operation).2.cluster = session.cluster := by
  unfold meetFault
  split <;> rfl

theorem deliver_meets (session : Session) (request : Request) :
    ∃ answer, (session.deliver request).1 = .answer answer ∧
      Cluster.Meets .all session.cluster (.send request) answer
        (session.deliver request).2.cluster := by
  unfold deliver
  split
  · next value cluster answered => exact ⟨_, rfl, .inl ⟨value, answered, rfl⟩⟩
  · next error cluster answered =>
    have same := Cluster.answer_error answered
    exact ⟨_, rfl, .inr ⟨trivial, .inl same, error, rfl⟩⟩

theorem send_meets (session : Session) (request : Request) :
    ∃ answer, (∀ given, (session.send request).1 = .answer given → given = answer) ∧
      Cluster.Meets .all session.cluster (.send request) answer
        (session.send request).2.cluster := by
  have failing (error : RequestError) : Cluster.Meets .all session.cluster (.send request)
      (.error error) session.cluster := .inr ⟨trivial, .inl rfl, error, rfl⟩
  unfold send
  cases record : session.record (.request request) with
  | mk hangs session' =>
    have recorded : session'.cluster = session.cluster := by
      rw [← session.record_cluster (.request request), record]
    cases hangs with
    | true =>
      refine ⟨.error .transport, nofun, ?_⟩
      dsimp only
      rw [recorded]
      exact failing .transport
    | false =>
      dsimp only
      cases meet : session'.meetFault request.operation with
      | mk fault session'' =>
        have same : session''.cluster = session.cluster := by
          rw [← recorded, ← session'.meetFault_cluster request.operation, meet]
        cases fault with
        | none =>
          obtain ⟨answer, given, meets⟩ := session''.deliver_meets request
          rw [same] at meets
          exact ⟨answer, fun other equal => Reply.answer.inj (equal.symm.trans given), meets⟩
        | some fault =>
          obtain ⟨skip, error⟩ := fault
          cases error with
          | some error =>
            refine ⟨.error error, fun other equal => (Reply.answer.inj equal).symm, ?_⟩
            dsimp only
            rw [same]
            exact failing error
          | none =>
            refine ⟨.error .transport, nofun, ?_⟩
            dsimp only
            rw [same]
            exact failing .transport

/-- A session is a control plane with hazards. -/
theorem machine_faithful (now : Instant) (suffix : Nat → String) :
    (machine now suffix).Faithful Session.cluster := by
  intro effect session
  cases effect with
  | send request => exact session.send_meets request
  | probe url =>
    simp only [machine]
    cases record : session.record (.probe url) with
    | mk hangs session' =>
      have recorded : session'.cluster = session.cluster := by
        rw [← session.record_cluster (.probe url), record]
      refine ⟨session.cluster.reaches url, ?_, ?_⟩
      · cases hangs with
        | true => exact nofun
        | false =>
          intro given equal
          rw [← recorded]
          exact (Reply.answer.inj equal).symm
      · cases hangs with
        | true => exact ⟨rfl, recorded⟩
        | false => exact ⟨rfl, recorded⟩
  | clock => exact ⟨now, fun given equal => (Reply.answer.inj equal).symm, rfl⟩
  | randomSuffix => exact ⟨_, fun given equal => (Reply.answer.inj equal).symm, rfl⟩
  | isCancelled =>
    exact ⟨_, fun given equal => (Reply.answer.inj equal).symm, fun _ => trivial, rfl⟩

end Session

namespace System

variable {machine : Machine σ} {view : σ → Cluster} {within : System → Prop}

/-- A pass that a machine runs takes a path of the system, also if it hangs or crashes. -/
theorem path_of_run (faithful : machine.Faithful view) (idle : ∀ c, within ⟨c, []⟩)
    (alone : ∀ c flight, within ⟨c, [flight]⟩) (subject : Subject) (pass : Pass Unit) (state : σ) :
    Path settings within ⟨view state, [⟨subject, pass⟩]⟩ ⟨view (pass.run machine state).2, []⟩ := by
  have leaves (c : Cluster) (rest : Pass Unit) :
      Path settings within ⟨c, [⟨subject, rest⟩]⟩ ⟨c, []⟩ := by
    have step : Step settings ⟨c, [] ++ ⟨subject, rest⟩ :: []⟩ ⟨c, [] ++ []⟩ := .leave
    exact .single ⟨step, idle c⟩
  induction pass generalizing state with
  | done outcome => exact leaves _ _
  | perform effect resume ih =>
    obtain ⟨answer, given, handled⟩ := faithful effect state
    have step : Step settings ⟨view state, [] ++ ⟨subject, .perform effect resume⟩ :: []⟩
        ⟨view (machine.perform effect state).2, [] ++ ⟨subject, resume answer⟩ :: []⟩ :=
      .perform handled
    refine .head ⟨step, alone _ _⟩ ?_
    unfold Pass.run
    cases performed : machine.perform effect state with
    | mk reply state' =>
      cases reply with
      | answer value =>
        rw [performed] at given
        cases given value rfl
        exact ih _ state'
      | hang => exact leaves _ _
      | crash => exact leaves _ _

theorem path_of_runAll (faithful : machine.Faithful view) (idle : ∀ c, within ⟨c, []⟩)
    (alone : ∀ c flight, within ⟨c, [flight]⟩) (subjects : List Subject) (state : σ) :
    Path settings within ⟨view state, []⟩
      ⟨view (Resync.runAll machine (subjects.map (Subject.pass settings)) state), []⟩ := by
  induction subjects generalizing state with
  | nil => exact .refl
  | cons subject rest ih =>
    have begun : Step settings ⟨view state, []⟩ ⟨view state, [⟨subject, subject.pass settings⟩]⟩ :=
      .launch subject
    have ran : Path settings within _ _ :=
      path_of_run faithful idle alone subject (subject.pass settings) state
    exact .head ⟨begun, alone _ _⟩ (ran.trans (ih _))

theorem view_of_read (faithful : machine.Faithful view) (request : Request)
    (reads : ∀ c : Cluster, (c.answer request).2 = c) (state : σ) :
    view (machine.perform (.send request) state).2 = view state := by
  obtain ⟨answer, -, handled⟩ := faithful (.send request) state
  obtain same | ⟨_, sent, same⟩ := handled.effect
  · exact same
  · cases sent
    exact same.trans (reads _)

/-- So does a whole resync. -/
theorem path_of_resync (faithful : machine.Faithful view) (idle : ∀ c, within ⟨c, []⟩)
    (alone : ∀ c flight, within ⟨c, [flight]⟩) (settings : Settings) (state : σ) :
    Path settings within ⟨view state, []⟩ ⟨view (resync machine settings state).2, []⟩ := by
  have listed := view_of_read faithful (.listBuilds settings.ns) (fun _ => rfl) state
  unfold resync
  cases performed : machine.perform (.send (.listBuilds settings.ns)) state with
  | mk reply state₁ =>
    rw [performed] at listed
    rw [← listed]
    cases reply with
    | hang => exact .refl
    | crash => exact .refl
    | answer builds =>
      cases builds with
      | error error => exact .refl
      | ok builds =>
        dsimp only
        rw [Resync.buildPasses_eq]
        have first : Path settings within _ _ := path_of_runAll faithful idle alone
          (Resync.buildSubjects settings builds) state₁
        refine first.trans ?_
        generalize Resync.runAll machine _ state₁ = state₂
        have listed := view_of_read faithful (.listRuns settings.ns) (fun _ => rfl) state₂
        cases performed : machine.perform (.send (.listRuns settings.ns)) state₂ with
        | mk reply state₃ =>
          rw [performed] at listed
          rw [← listed]
          cases reply with
          | hang => exact .refl
          | crash => exact .refl
          | answer runs =>
            cases runs with
            | error error => exact .refl
            | ok runs =>
              dsimp only
              rw [Resync.runPasses_eq]
              exact path_of_runAll faithful idle alone _ state₃

/-- And so does the loop as long as it goes on. -/
theorem path_of_controlLoop (faithful : machine.Faithful view) (idle : ∀ c, within ⟨c, []⟩)
    (alone : ∀ c flight, within ⟨c, [flight]⟩) (settings : Settings) (ticks : Nat) (state : σ) :
    Path settings within ⟨view state, []⟩
      ⟨view (controlLoop machine settings ticks state), []⟩ := by
  induction ticks generalizing state with
  | zero => exact .refl
  | succ ticks ih =>
    obtain ⟨_, -, -, same⟩ := faithful .isCancelled state
    unfold controlLoop
    cases performed : machine.perform .isCancelled state with
    | mk reply state' =>
      rw [performed] at same
      rw [← same]
      cases reply with
      | hang => exact .refl
      | crash => exact .refl
      | answer cancelled =>
        cases cancelled with
        | true => exact .refl
        | false => exact (path_of_resync faithful idle alone settings state').trans (ih _)

end System

end BuildController
