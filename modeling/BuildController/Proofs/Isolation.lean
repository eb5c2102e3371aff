import BuildController.Proofs.Confinement
import BuildController.Proofs.Loop
import BuildController.Proofs.Round

/-! Namespaces are isolated. What a resync does depends on the watched namespace and on what belongs
to no namespace, and it changes nothing elsewhere; this holds of single passes too, whatever faults
a session meets and whenever it is cancelled. -/
namespace BuildController

variable {settings : Settings} {ns : String}

namespace Pass

/-- What a pass does once an effect was met. -/
def after (machine : Machine σ) (resume : β → Pass α) : Reply β → σ → Ending α × σ
  | .answer answer, state => (resume answer).run machine state
  | .hang, state => (.outcome (.error .cancelled), state)
  | .crash, state => (.crash, state)

theorem run_perform (machine : Machine σ) (effect : Effect) (resume : effect.Answer → Pass α)
    (state : σ) : (perform effect resume).run machine state =
      after machine resume (machine.perform effect state).1 (machine.perform effect state).2 := by
  rw [run]
  rcases machine.perform effect state with ⟨reply, state⟩
  cases reply <;> rfl

end Pass

namespace Session

variable {keep : String → Bool} {session : Session}

/-- The session with the objects of some namespaces only. -/
def restrict (keep : String → Bool) (session : Session) : Session :=
  { session with cluster := session.cluster.restrict keep }

theorem record_restrict (call : Call) : (session.restrict keep).record call
    = ((session.record call).1, (session.record call).2.restrict keep) := by
  obtain ⟨cluster, faults, cancellation, cancelled, calls, writes, suffixes⟩ := session
  cases cancellation with
  | none => rfl
  | some cancellation =>
    obtain ⟨after, hangs⟩ := cancellation
    cases after <;> rfl

theorem meetFault_restrict (operation : Operation) : (session.restrict keep).meetFault operation
    = ((session.meetFault operation).1, (session.meetFault operation).2.restrict keep) := by
  have same : (session.restrict keep).faults = session.faults := rfl
  unfold meetFault
  rw [same]
  split <;> rfl

theorem deliver_restrict {request : Request} (within : request.Within ns) (kept : keep ns = true) :
    (session.restrict keep).deliver request
      = ((session.deliver request).1, (session.deliver request).2.restrict keep) := by
  have answered : (session.restrict keep).cluster.answer request = _ :=
    Cluster.answer_restrict within kept
  unfold deliver
  rw [answered]
  cases session.cluster.answer request with
  | mk answer cluster => cases answer <;> rfl

theorem send_restrict {request : Request} (within : request.Within ns) (kept : keep ns = true) :
    (session.restrict keep).send request
      = ((session.send request).1, (session.send request).2.restrict keep) := by
  unfold send
  rw [record_restrict]
  cases session.record (.request request) with
  | mk hangs session =>
    cases hangs with
    | true => rfl
    | false =>
      dsimp only
      rw [meetFault_restrict]
      cases session.meetFault request.operation with
      | mk fault session =>
        cases fault with
        | none => exact deliver_restrict within kept
        | some fault =>
          obtain ⟨skip, error⟩ := fault
          cases error <;> rfl

/-- A session does what is asked within a namespace as its part that keeps the namespace does. -/
theorem perform_restrict {effect : Effect} (now : Instant) (suffix : Nat → String)
    (within : effect.Within ns) (kept : keep ns = true) :
    (machine now suffix).perform effect (session.restrict keep)
      = (((machine now suffix).perform effect session).1,
        ((machine now suffix).perform effect session).2.restrict keep) := by
  cases effect with
  | send request => exact send_restrict within kept
  | probe url =>
    simp only [machine, record_restrict]
    cases session.record (.probe url) with
    | mk hangs session => cases hangs <;> rfl
  | clock | randomSuffix | isCancelled => rfl

/-- The action stays in the namespace: what it does, it does to the part of a session that keeps the
namespace, and it spares the part that drops it. -/
structure Stays (ns : String) (post : β → Prop) (action : Session → β × Session) : Prop where
  restrict : ∀ keep session, keep ns = true → session.cluster.Filed →
    action (session.restrict keep) = ((action session).1, (action session).2.restrict keep)
  spares : ∀ keep session, keep ns = false → session.cluster.Filed →
    (action session).2.cluster.restrict keep = session.cluster.restrict keep
  filed : ∀ session, session.cluster.Filed → (action session).2.cluster.Filed
  holds : ∀ session, session.cluster.Filed → post (action session).1

theorem stays_pure {post : β → Prop} (holds : post b) : Stays ns post fun session => (b, session) :=
  ⟨fun _ _ _ _ => rfl, fun _ _ _ _ => rfl, fun _ => id, fun _ _ => holds⟩

theorem Stays.bind {first : Session → β × Session} {next : β → Session → γ × Session}
    {middle : β → Prop} {post : γ → Prop} (stays : Stays ns middle first)
    (rest : ∀ b, middle b → Stays ns post (next b)) :
    Stays ns post fun session => next (first session).1 (first session).2 where
  restrict keep session kept filed := by
    have later := rest _ (stays.holds session filed)
    simp only [stays.restrict keep session kept filed]
    exact later.restrict keep _ kept (stays.filed session filed)
  spares keep session dropped filed := by
    have later := rest _ (stays.holds session filed)
    exact (later.spares keep _ dropped (stays.filed session filed)).trans
      (stays.spares keep session dropped filed)
  filed session filed :=
    (rest _ (stays.holds session filed)).filed _ (stays.filed session filed)
  holds session filed :=
    (rest _ (stays.holds session filed)).holds _ (stays.filed session filed)

variable {now : Instant} {suffix : Nat → String}

theorem stays_perform {effect : Effect} (within : effect.Within ns) :
    Stays ns (fun reply => ∀ answer, reply = .answer answer → Reports.filed.Covers effect answer)
      ((machine now suffix).perform effect) where
  restrict keep session kept _ := perform_restrict now suffix within kept
  spares keep session dropped _ := by
    obtain ⟨answer, _, met⟩ := machine_faithful now suffix effect session
    exact met.spares within dropped
  filed session filed := by
    obtain ⟨answer, _, met⟩ := machine_faithful now suffix effect session
    exact met.filed filed
  holds session filed given same := by
    obtain ⟨answer, only, met⟩ := machine_faithful now suffix effect session
    rw [only given same]
    exact met.covers filed

theorem stays_run {pass : Pass α} {post : α → Prop}
    (given : pass.Given Reports.filed.Covers (Effect.Within ns) post) :
    Stays ns (fun _ => True) (pass.run (machine now suffix)) := by
  induction pass with
  | done outcome => exact stays_pure trivial
  | perform effect resume ih =>
    rw [funext (Pass.run_perform (machine now suffix) effect resume)]
    refine (stays_perform given.1).bind fun reply covers => ?_
    cases reply with
    | answer answer => exact ih answer (given.2 answer (covers answer rfl))
    | hang | crash => exact stays_pure trivial

theorem stays_pass (settings : Settings) (subject : Subject) (here : subject.ns = ns) :
    Stays ns (fun _ => True) ((subject.pass settings).run (machine now suffix)) := by
  subst here
  exact stays_run (subject.stays settings)

theorem stays_runAll {passes : List (Pass Unit)}
    (stays : ∀ pass ∈ passes, Stays ns (fun _ => True) (pass.run (machine now suffix))) :
    Stays ns (fun _ => True) fun session =>
      ((), Resync.runAll (machine now suffix) passes session) := by
  induction passes with
  | nil => exact stays_pure trivial
  | cons pass rest ih =>
    obtain ⟨first, later⟩ := List.forall_mem_cons.mp stays
    exact first.bind fun _ _ => ih later

theorem stays_buildPasses (settings : Settings) (builds : List Build) :
    ∀ pass ∈ Resync.buildPasses settings builds,
      Stays settings.ns (fun _ => True) (pass.run (machine now suffix)) := by
  intro pass member
  obtain ⟨build, -, rfl⟩ := List.mem_map.mp member
  exact stays_pass settings (.build ⟨settings.ns, build.metadata.name⟩) rfl

theorem stays_runPasses (settings : Settings) (runs : List BuildRun) :
    ∀ pass ∈ Resync.runPasses settings runs,
      Stays settings.ns (fun _ => True) (pass.run (machine now suffix)) := by
  intro pass member
  obtain ⟨run, -, rfl⟩ := List.mem_map.mp member
  exact stays_pass settings (.run ⟨settings.ns, run.metadata.name⟩) rfl

end Session

namespace Resync

/-- What a resync does once its request for the runs was met. -/
def afterRuns (machine : Machine σ) (settings : Settings) (first : Nat) :
    Reply (Except RequestError (List BuildRun)) → σ → Reply (Except ResyncError Nat) × σ
  | .hang, state => (.hang, state)
  | .crash, state => (.crash, state)
  | .answer (.error error), state => (.answer (.error (.runs error)), state)
  | .answer (.ok runs), state =>
    (.answer (.ok (first + (runPasses settings runs).length)),
      runAll machine (runPasses settings runs) state)

/-- What a resync does once its request for the builds was met. -/
def afterBuilds (machine : Machine σ) (settings : Settings) :
    Reply (Except RequestError (List Build)) → σ → Reply (Except ResyncError Nat) × σ
  | .hang, state => (.hang, state)
  | .crash, state => (.crash, state)
  | .answer (.error error), state => (.answer (.error (.builds error)), state)
  | .answer (.ok builds), state =>
    let met := machine.perform (.send (.listRuns settings.ns))
      (runAll machine (buildPasses settings builds) state)
    afterRuns machine settings (buildPasses settings builds).length met.1 met.2

theorem resync_eq (machine : Machine σ) (settings : Settings) (state : σ) :
    resync machine settings state =
      let met := machine.perform (.send (.listBuilds settings.ns)) state
      afterBuilds machine settings met.1 met.2 := by
  simp only [resync]
  rcases machine.perform (.send (.listBuilds settings.ns)) state with ⟨reply, state⟩
  cases reply with
  | hang | crash => rfl
  | answer answer =>
    cases answer with
    | error => rfl
    | ok builds =>
      simp only [afterBuilds]
      rcases machine.perform (.send (.listRuns settings.ns))
        (runAll machine (buildPasses settings builds) state) with ⟨reply, state⟩
      cases reply with
      | hang | crash => rfl
      | answer answer => cases answer <;> rfl

end Resync

namespace Session

theorem stays_afterRuns (first : Nat) (reply : Reply (Except RequestError (List BuildRun))) :
    Stays settings.ns (fun _ => True)
      (Resync.afterRuns (machine now suffix) settings first reply) := by
  cases reply with
  | hang | crash => exact stays_pure trivial
  | answer answer =>
    cases answer with
    | error error => exact stays_pure trivial
    | ok runs =>
      exact (stays_runAll (stays_runPasses settings runs)).bind fun _ _ => stays_pure trivial

theorem stays_afterBuilds (reply : Reply (Except RequestError (List Build))) :
    Stays settings.ns (fun _ => True)
      (Resync.afterBuilds (machine now suffix) settings reply) := by
  cases reply with
  | hang | crash => exact stays_pure trivial
  | answer answer =>
    cases answer with
    | error error => exact stays_pure trivial
    | ok builds =>
      have listed : Effect.Within settings.ns (.send (.listRuns settings.ns)) := rfl
      exact (stays_runAll (stays_buildPasses settings builds)).bind fun _ _ =>
        (stays_perform listed).bind fun reply _ =>
          stays_afterRuns _ reply

theorem stays_resync (settings : Settings) :
    Stays settings.ns (fun _ => True) (resync (machine now suffix) settings) := by
  have listed : Effect.Within settings.ns (.send (.listBuilds settings.ns)) := rfl
  rw [funext (Resync.resync_eq (machine now suffix) settings)]
  exact (stays_perform listed).bind fun reply _ =>
    stays_afterBuilds reply

end Session

namespace Session

/-- The sessions are the same except for what their control planes hold in other namespaces. -/
def Matches (ns : String) (s t : Session) : Prop :=
  t = { s with cluster := t.cluster } ∧ s.cluster.within ns = t.cluster.within ns

theorem matches_iff {s t : Session} :
    s.Matches ns t ↔ s.restrict (fun place => place = ns) = t.restrict fun place => place = ns := by
  obtain ⟨cluster, faults, cancellation, cancelled, calls, writes, suffixes⟩ := s
  obtain ⟨cluster', faults', cancellation', cancelled', calls', writes', suffixes'⟩ := t
  simp only [Matches, restrict, Cluster.within, mk.injEq, true_and]
  constructor
  · rintro ⟨⟨rfl, rfl, rfl, rfl, rfl, rfl⟩, same⟩
    exact ⟨same, rfl, rfl, rfl, rfl, rfl, rfl⟩
  · rintro ⟨same, rfl, rfl, rfl, rfl, rfl, rfl⟩
    exact ⟨⟨rfl, rfl, rfl, rfl, rfl, rfl⟩, same⟩

/-- Sessions that match in the namespace still match after the action, which ends in the same way on
both and leaves other namespaces alone. What calls were made is part of a session. -/
def Isolates (ns : String) (action : Session → β × Session) : Prop :=
  ∀ s t : Session, s.cluster.Filed → t.cluster.Filed → s.Matches ns t →
    (action s).1 = (action t).1 ∧ (action s).2.Matches ns (action t).2 ∧
      (action s).2.cluster.outside ns = s.cluster.outside ns ∧
      (action t).2.cluster.outside ns = t.cluster.outside ns

theorem Stays.isolates {action : Session → β × Session} {post : β → Prop}
    (stays : Stays ns post action) : Isolates ns action := by
  intro s t filed filed' same
  have kept : decide (ns = ns) = true := decide_eq_true rfl
  have dropped : decide (ns ≠ ns) = false := by simp
  have first := stays.restrict (fun place => place = ns) s kept filed
  have second := stays.restrict (fun place => place = ns) t kept filed'
  rw [matches_iff.mp same, second] at first
  obtain ⟨result, after⟩ := Prod.mk.inj first
  exact ⟨result.symm, matches_iff.mpr after.symm, stays.spares _ s dropped filed,
    stays.spares _ t dropped filed'⟩

end Session

/-- What happens in the watched namespace depends on nothing in other namespaces and changes nothing
there, as long as requests reach the namespace and the name that they are about; over HTTP, names
that do not stand for themselves in a URL reach others. With the same clock and the same fresh
names, resyncs and single passes make the same calls in control planes that agree on the namespace;
and with passes side by side, in whatever order and under whatever hazards, what can happen in one
of them can happen in the other. -/
theorem resyncs_isolated (settings : Settings) (now : Instant) (suffix : Nat → String) :
    Session.Isolates settings.ns (resync (Session.machine now suffix) settings) ∧
    (∀ subject : Subject, subject.ns = settings.ns →
      Session.Isolates settings.ns
        ((subject.pass settings).run (Session.machine now suffix))) ∧
    ∀ hazards (c d : Cluster), c.Filed → d.Filed →
      c.within settings.ns = d.within settings.ns →
      ∀ events count c', c.ResyncsBy hazards settings events count c' →
        c'.outside settings.ns = c.outside settings.ns ∧
        ∃ d', d.ResyncsBy hazards settings events count d' ∧
          c'.within settings.ns = d'.within settings.ns ∧
          d'.outside settings.ns = d.outside settings.ns := by
  refine ⟨(Session.stays_resync settings).isolates,
    fun subject here => (Session.stays_pass settings subject here).isolates, ?_⟩
  intro hazards c d filed filed' agree events count c' resyncs
  obtain ⟨d', resyncs', agree'⟩ := resyncs.agree filed agree
  exact ⟨resyncs.spares filed, d', resyncs', agree', resyncs'.spares filed'⟩

/-- A secret in another namespace makes no difference to a build that lacks it in its own. -/
theorem resyncs_isolated_secret :
    let build : Build :=
      { metadata := { name := "app", ns := some "default" }
        spec := { strategy := { name := "kaniko" }
                  output := { image := "registry/app", pushSecret := some "push" } } }
    let c := Cluster.put {} (.build build)
    let d := c.put (.secret ⟨"team", "push"⟩)
    let after (c : Cluster) := resync (Session.machine default fun _ => "") {} { cluster := c }
    (after c).1 = (after d).1 ∧ (after c).2.Matches "default" (after d).2 ∧
      ∃ events count c' d', c.ResyncsBy .calm {} events count c' ∧
        d.ResyncsBy .calm {} events count d' ∧ c'.within "default" = d'.within "default" := by
  intro build c d after
  have filed : c.Filed := Cluster.filed_empty.put (.build build)
  have filed' : d.Filed := filed.put (.secret ⟨"team", "push"⟩)
  have agree : c.within "default" = d.within "default" := rfl
  obtain ⟨resynced, -, moves⟩ := resyncs_isolated {} default fun _ => ""
  obtain ⟨result, same, -⟩ := resynced { cluster := c } { cluster := d } filed filed' ⟨rfl, agree⟩
  have room : 1 ≤ Settings.maxParallelReconciles {} := by decide
  obtain ⟨c', resyncs⟩ := filed.exists_resyncs room
  obtain ⟨events, count, resyncs⟩ := Cluster.resyncs_iff_by.mp resyncs
  obtain ⟨-, d', resyncs', agree', -⟩ := moves .calm c d filed filed' agree events count c' resyncs
  exact ⟨result, same, events, count, c', d', resyncs, resyncs', agree'⟩

end BuildController
