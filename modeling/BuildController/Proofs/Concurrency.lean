import BuildController.ControlPlane.Session
import BuildController.Proofs.Agreement

/-! A resync that makes its passes one after the other stands for all the ways in which they can go
on side by side. -/
namespace BuildController

/-- As long as it is calm, the machine gives the answers of the control plane and stays calm. -/
def Machine.Serves (machine : Machine σ) (view : σ → Cluster) (calm : σ → Prop) : Prop :=
  ∀ effect state, calm state →
    (∃ answer d, Cluster.Meets .calm (view state) effect answer d) →
    ∃ answer next, machine.perform effect state = (.answer answer, next) ∧ calm next ∧
      Cluster.Meets .calm (view state) effect answer (view next)

namespace Session

/-- No operation is told to fail, and the session is not cancelled, neither now nor later. -/
structure Undisturbed (session : Session) : Prop where
  faults : session.faults = []
  cancellation : session.cancellation = none
  cancelled : session.cancelled = false

theorem Undisturbed.record {session : Session} (undisturbed : session.Undisturbed) (call : Call) :
    session.record call = (false, { session with calls := session.calls ++ [call] }) := by
  simp [Session.record, undisturbed.cancellation]

theorem Undisturbed.send {session : Session} {request : Request} {value : request.Answer}
    (undisturbed : session.Undisturbed)
    (answered : session.cluster.answer request = (.ok value, d)) :
    ∃ next, session.send request = (.answer (.ok value), next) ∧ next.Undisturbed ∧
      next.cluster = d := by
  obtain ⟨faults, cancellation, cancelled⟩ := undisturbed
  have fine : Undisturbed ⟨d, session.faults, session.cancellation, session.cancelled,
      session.calls ++ [.request request], session.writes ++ request.write?.toList,
      session.suffixes⟩ := ⟨faults, cancellation, cancelled⟩
  refine ⟨_, ?_, fine, rfl⟩
  simp [Session.send, Session.record, cancellation, meetFault, faults, deliver, answered]

/-- A session in memory serves. -/
theorem serves (now : Instant) (suffix : Nat → String) :
    (machine now suffix).Serves Session.cluster Undisturbed := by
  rintro effect session undisturbed ⟨answer, d, met⟩
  cases effect with
  | send request =>
    obtain ⟨value, answered, rfl⟩ := Cluster.meets_calm_send.mp met
    obtain ⟨next, sent, calm, same⟩ := undisturbed.send answered
    exact ⟨.ok value, next, sent, calm, same ▸ met⟩
  | probe url =>
    have fine : Undisturbed { session with calls := session.calls ++ [.probe url] } :=
      ⟨undisturbed.faults, undisturbed.cancellation, undisturbed.cancelled⟩
    refine ⟨session.cluster.reaches url, _, ?_, fine, rfl, rfl⟩
    simp [machine, undisturbed.record]
  | clock => exact ⟨now, session, rfl, undisturbed, rfl⟩
  | randomSuffix =>
    have fine : Undisturbed { session with suffixes := session.suffixes + 1 } :=
      ⟨undisturbed.faults, undisturbed.cancellation, undisturbed.cancelled⟩
    exact ⟨_, _, rfl, fine, rfl⟩
  | isCancelled =>
    refine ⟨session.cancelled, session, rfl, undisturbed, ?_, rfl⟩
    rw [undisturbed.cancelled]
    exact nofun

end Session

variable {machine : Machine σ} {view : σ → Cluster} {calm : σ → Prop} {D : Discipline}
  {settings : Settings}

theorem Machine.Serves.read {request : Request} {value : request.Answer}
    (serves : machine.Serves view calm) (quiet : calm state)
    (answered : (view state).answer request = (.ok value, view state)) :
    ∃ next, machine.perform (.send request) state = (.answer (.ok value), next) ∧ calm next ∧
      view next = view state := by
  have possible : Cluster.Meets .calm (view state) (.send request) (.ok value) (view state) :=
    Cluster.meets_calm_send.mpr ⟨value, answered, rfl⟩
  obtain ⟨answer, next, performed, quiet', met⟩ := serves _ state quiet ⟨_, _, possible⟩
  obtain ⟨value', answered', rfl⟩ := Cluster.meets_calm_send.mp met
  obtain ⟨same, unchanged⟩ := Prod.ext_iff.mp (answered.symm.trans answered')
  cases same
  exact ⟨next, performed, quiet', unchanged.symm⟩

/-- A machine that serves runs a pass to its end, if the discipline is live. -/
theorem Pass.Assures.run {pass : Pass α} (serves : machine.Serves view calm)
    (assures : pass.Assures D s post u) (live : D.live) (follows : D.Follows s u (view state))
    (quiet : calm state) :
    ∃ r next, pass.run machine state = (.outcome r, next) ∧ calm next ∧
      pass.Ends (Cluster.Meets .calm) (view state) r (view next) := by
  induction pass generalizing u state with
  | done outcome => exact ⟨outcome, state, rfl, quiet, rfl, rfl⟩
  | perform effect resume ih =>
    obtain ⟨allowed, answered, goes⟩ := assures _ follows
    obtain ⟨answer, middle, performed, quiet', met⟩ := serves effect state quiet (answered live)
    obtain ⟨r, next, ran, calm', ended⟩ := ih answer (goes answer _ met)
      (.refl (D.keeps follows.sound allowed met).1) quiet'
    refine ⟨r, next, ?_, calm', answer, view middle, met, ended⟩
    rw [Pass.run, performed]
    exact ran

/-- It completes a phase by making the passes one after the other. -/
theorem Phase.Disciplined.runAll (serves : machine.Serves view calm) (live : D.live)
    (room : 1 ≤ settings.maxParallelReconciles)
    (assured : ∀ s ∈ subjects, (s.pass settings).Assures D s (post s) c) (quiet : calm state)
    (disciplined : Disciplined D post c subjects ⟨view state, waiting, []⟩) :
    calm (Resync.runAll machine (waiting.map (Subject.pass settings)) state) ∧
      Completes settings ⟨view state, waiting, []⟩
        (view (Resync.runAll machine (waiting.map (Subject.pass settings)) state)) := by
  induction waiting generalizing state with
  | nil => exact ⟨quiet, .refl⟩
  | cons subject rest ih =>
    have listed := disciplined.listed subject (by simp [pending])
    have follows : D.Follows subject c (view state) :=
      ⟨disciplined.sound, disciplined.untouched subject (.inl List.mem_cons_self)⟩
    obtain ⟨r, next, ran, quiet', ended⟩ :=
      (assured subject listed).run serves live follows quiet
    have path : Path settings ⟨view state, subject :: rest, []⟩ ⟨view next, rest, []⟩ :=
      path_of_pass room ended
    obtain ⟨last, completes⟩ := ih quiet' (disciplined.reaches assured path)
    have here : Resync.runAll machine ((subject :: rest).map (Subject.pass settings)) state =
        Resync.runAll machine (rest.map (Subject.pass settings)) next := by
      simp only [Resync.runAll, List.map_cons, List.foldl_cons, ran]
    rw [here]
    exact ⟨last, path.trans completes⟩

namespace Cluster

variable {c middle : Cluster}

/-- If all names are derived, no pass is ever stuck: however a resync has begun, it can be
completed. -/
theorem Naming.completes (naming : c.Naming settings) (filed : c.Filed)
    (room : 1 ≤ settings.maxParallelReconciles)
    (path : Tick.Path settings (.builds (.ofBuilds settings c)) t) :
    ∃ d, Tick.Path settings t (.runs ⟨d, [], []⟩) := by
  have second {middle : Cluster} {p : Phase}
      (first : (Phase.ofBuilds settings c).Completes settings middle)
      (begun : (Phase.ofRuns settings middle).Path settings p) : ∃ d, p.Completes settings d := by
    have reviews := filed.reviews first
    have filed' := reviews.toReviewed.filed filed
    have naming' := naming.reviewed reviews.toReviewed
    exact (filed'.disciplined_runs.reaches filed'.assures_progressions begun).completes
      filed'.assures_progressions ⟨filed', naming'.derived⟩ room
  obtain ⟨p, rfl, begun⟩ | ⟨middle, p, rfl, first, begun⟩ := path.phases
  · obtain ⟨middle, rest⟩ := filed.completes_builds room begun
    obtain ⟨d, completes⟩ := second (begun.trans rest) .refl
    exact ⟨d, (Tick.path_turn rest).trans (Tick.path_runs completes)⟩
  · obtain ⟨d, completes⟩ := second first begun
    exact ⟨d, Tick.path_runs completes⟩

theorem Filed.runAll_builds (serves : machine.Serves view calm) (filed : (view state).Filed)
    (room : 1 ≤ settings.maxParallelReconciles) (quiet : calm state) :
    ∃ next, Resync.runAll machine (Resync.buildPasses settings
        (inNamespace settings.ns (view state).builds)) state = next ∧ calm next ∧
      (Phase.ofBuilds settings (view state)).Completes settings (view next) := by
  rw [Resync.buildPasses_eq]
  exact ⟨_, rfl, filed.disciplined_builds.runAll serves trivial room
    filed.assures_registrations quiet⟩

theorem Naming.runAll_runs (serves : machine.Serves view calm)
    (naming : (view state).Naming settings) (filed : (view state).Filed)
    (room : 1 ≤ settings.maxParallelReconciles) (quiet : calm state) :
    ∃ next, Resync.runAll machine (Resync.runPasses settings
        (inNamespace settings.ns (view state).runs)) state = next ∧ calm next ∧
      (Phase.ofRuns settings (view state)).Completes settings (view next) := by
  have live : ((view state).progression settings).live := ⟨filed, naming.derived⟩
  rw [Resync.runPasses_eq]
  exact ⟨_, rfl, filed.disciplined_runs.runAll serves live room filed.assures_progressions quiet⟩

/-- A machine that serves makes a whole resync, with one pass after the other. -/
theorem Naming.resync (serves : machine.Serves view calm) (naming : (view state).Naming settings)
    (filed : (view state).Filed) (room : 1 ≤ settings.maxParallelReconciles)
    (quiet : calm state) :
    ∃ passes next, resync machine settings state = (.answer (.ok passes), next) ∧
      (view state).Resyncs settings (view next) := by
  have builds (c : Cluster) : c.answer (.listBuilds settings.ns) = (.ok _, c) := rfl
  have runs (c : Cluster) : c.answer (.listRuns settings.ns) = (.ok _, c) := rfl
  obtain ⟨s₁, listed, quiet, same⟩ := serves.read quiet (builds _)
  rw [← same] at naming filed listed ⊢
  obtain ⟨s₂, registered, quiet, first⟩ := filed.runAll_builds serves room quiet
  have reviews := filed.reviews first
  obtain ⟨s₃, listed', quiet, same'⟩ := serves.read quiet (runs _)
  rw [← same'] at listed' first reviews
  obtain ⟨s₄, advanced, -, second⟩ := (naming.reviewed reviews.toReviewed).runAll_runs serves
    (reviews.toReviewed.filed filed) room quiet
  simp only [BuildController.resync, listed, registered, listed', advanced]
  exact ⟨_, s₄, rfl, resyncs_iff.mpr ⟨view s₃, first, second⟩⟩

/-- If the names of task runs are derived and recorded by their own runs only, a resync with its
passes one after the other comes to an end. However else the passes go on side by side, they can all
be brought to an end, and what they leave behind differs from this in nothing but times. -/
theorem resync_any_schedule (settings : Settings) (now : Instant) (suffix : Nat → String)
    {session : Session} (undisturbed : session.Undisturbed) (filed : session.cluster.Filed)
    (naming : session.cluster.Naming settings) (room : 1 ≤ settings.maxParallelReconciles) :
    ∃ passes final, resync (Session.machine now suffix) settings session =
        (.answer (.ok passes), final) ∧
      session.cluster.Resyncs settings final.cluster ∧
      (∀ t, Tick.Path settings (.builds (.ofBuilds settings session.cluster)) t →
        ∃ d, Tick.Path settings t (.runs ⟨d, [], []⟩)) ∧
      ∀ d, session.cluster.Resyncs settings d → final.cluster.Alike d := by
  obtain ⟨passes, final, ran, resyncs⟩ :=
    naming.resync (Session.serves now suffix) filed room undisturbed
  exact ⟨passes, final, ran, resyncs, fun t => naming.completes filed room,
    fun d => naming.alike filed resyncs⟩

/-- So it is with two runs of one build. -/
theorem resync_any_schedule_two :
    let build : Build :=
      { metadata := { name := "app", ns := some "default" }
        spec := { strategy := { name := "kaniko" }, output := { image := "registry/app" } } }
    let strategy : BuildStrategy :=
      { metadata := { name := "kaniko", ns := some "default" }, spec := {} }
    let run (name uid : String) : BuildRun :=
      { metadata := { name, ns := some "default", uid }, spec := { build := { name := "app" } } }
    let session : Session :=
      { cluster := ((Cluster.put {} (.build build)).put (.strategy strategy)).put
          (.run (run "first" "0a1b2c")) |>.put (.run (run "second" "3d4e5f")) }
    ∃ passes final, resync (Session.machine default fun _ => "") {} session =
        (.answer (.ok passes), final) ∧
      ∀ d, session.cluster.Resyncs {} d → final.cluster.Alike d := by
  intro build strategy run session
  have filed : session.cluster.Filed :=
    (((filed_empty.put (.build build)).put (.strategy strategy)).put
      (.run (run "first" "0a1b2c"))).put (.run (run "second" "3d4e5f"))
  have naming : session.cluster.Naming {} :=
    (((naming_empty.put (.build build) trivial).put (.strategy strategy) trivial).put
      (.run (run "first" "0a1b2c")) ⟨by decide, rfl⟩).put (.run (run "second" "3d4e5f"))
      ⟨by decide, rfl⟩
  obtain ⟨passes, final, ran, -, -, alike⟩ :=
    resync_any_schedule {} default (fun _ => "") ⟨rfl, rfl, rfl⟩ filed naming (by decide)
  exact ⟨passes, final, ran, alike⟩

end Cluster

end BuildController
