import BuildController.Proofs.Advance
import BuildController.Proofs.Status

/-! The start of a run is decided by the verdict of the gate and by nothing else: a run that is
admitted is started, one that has to wait is left alone, and any other one fails for the first
reason that the gate finds. -/
namespace BuildController

/-- What a pass makes of a run that was not started and on which the gate came to the verdict. -/
inductive Cluster.Settles (settings : Settings) (c : Cluster) (run : BuildRun) :
    GateVerdict (Build × BuildStrategy) → Except PassError Unit → Cluster → Prop
  | starts (names : run.Names name) (ensures : c.Ensures settings run name build strategy prepared)
      (now : Readings) :
      Settles settings c run (.admits (build, strategy)) (.ok ())
        (prepared.withRun (run.started now name))
  | waits : Settles settings c run (.waits name) (.error (.notRegistered name)) c
  | fails {failure : RunFailure} (now : Readings) :
      Settles settings c run (.fails failure) (.ok ()) (c.withRun (run.failed now failure))

/-- What the stored run says after the verdict. -/
def GateVerdict.Shows (run : BuildRun) : GateVerdict α → BuildRun → Prop
  | admits _, next => next.status.Says .unknown RunReason.pending.text "" ∧
      ∃ name, run.Names name ∧ next.status.taskRunName = some name
  | waits _, next => next = run
  | fails failure, next => next.status.Says .false failure.reason failure.message

namespace BuildRun

variable {c : Cluster} {run : BuildRun}

theorem shows_of_settles {verdict : GateVerdict (Build × BuildStrategy)}
    (stored : c.runs.get? run.metadata.key = some run)
    (settles : c.Settles settings run verdict r after) :
    ∃ next, after.runs.get? run.metadata.key = some next ∧ verdict.Shows run next := by
  cases settles with
  | starts names ensures now =>
    exact ⟨_, OrderedMap.get?_insert_self _ _ _, run.started_says now _, _, names, rfl⟩
  | waits => exact ⟨run, stored, rfl⟩
  | fails now => exact ⟨_, OrderedMap.get?_insert_self _ _ _, run.failed_says now _⟩

/-- Without hazards, a pass over a run that was not started settles the verdict of the gate. -/
theorem advance_settles (stored : c.runs.get? run.metadata.key = some run)
    (notDone : run.status.isDone = false) (unstarted : run.status.taskRunName = none) :
    (advance settings run.metadata.namespaceName run.metadata.name).Ends (Cluster.Meets .calm) c r
      after ↔ c.Settles settings run (c.gate run) r after := by
  rw [advance_calm_iff stored]
  constructor
  · intro advances
    obtain ⟨done, -, -⟩ | ⟨-, next, prepared, decides, rfl, rfl⟩ | ⟨-, -, name, waits, rfl, rfl⟩ :=
      advances.of_calm
    · rw [notDone] at done
      cases done
    · obtain ⟨name, now, prepares, rfl⟩ | ⟨failure, now, fails, rfl, rfl⟩ :=
        decides.of_unstarted unstarted
      · obtain ⟨_, build, strategy, admits, names, ensures⟩ := prepares
        rw [admits]
        exact .starts names ensures now
      · rw [fails]
        exact .fails now
    · rw [waits]
      exact .waits
  · intro settles
    generalize judged : c.gate run = verdict at settles
    cases settles with
    | starts names ensures now =>
      exact .written notDone (.started ⟨unstarted, _, _, judged, names, ensures⟩ now)
    | waits => exact .deferred notDone unstarted judged
    | fails now => exact .written notDone (.failed unstarted judged now)

/-- Without hazards, every pass over a run that was not started comes to an end, and it ends with
the one verdict that the rules of the gate admit: the run is started, it is left alone, or it fails
for the reason of the first check that it does not meet. -/
theorem start_decided (settings : Settings) (stored : c.runs.get? run.metadata.key = some run)
    (notDone : run.status.isDone = false) (unstarted : run.status.taskRunName = none) :
    ∃ verdict, (∀ other, c.Judges run other ↔ other = verdict) ∧
      (∃ r after, (advance settings run.metadata.namespaceName run.metadata.name).Ends
        (Cluster.Meets .calm) c r after) ∧
      ∀ r after, ((advance settings run.metadata.namespaceName run.metadata.name).Ends
        (Cluster.Meets .calm) c r after ↔ c.Settles settings run verdict r after) ∧
        (c.Settles settings run verdict r after →
          ∃ next, after.runs.get? run.metadata.key = some next ∧ verdict.Shows run next) := by
  refine ⟨c.gate run, fun other => ?_, ?_, fun r after =>
    ⟨advance_settles stored notDone unstarted, ?_⟩⟩
  · rw [Cluster.judges_iff, eq_comm]
  · obtain ⟨r, after, advances⟩ := Cluster.exists_advances settings c run
    exact ⟨r, after, (advance_calm_iff stored).mpr advances⟩
  · exact shows_of_settles stored

/-- A run that names a build that is not there fails for this reason. -/
theorem start_decided_missing :
    let run : BuildRun := { metadata := { name := "run" }, spec := { build := { name := "app" } } }
    ∀ r after, (advance {} "" "run").Ends (Cluster.Meets .calm) (Cluster.put {} (.run run)) r
        after → r = .ok () ∧ ∃ next, after.runs.get? ⟨"", "run"⟩ = some next ∧
      next.status.Says .false "BuildNotFound" "build.kiln.dev \"app\" not found" := by
  intro run r after ended
  have stored : (Cluster.put {} (.run run)).runs.get? run.metadata.key = some run :=
    OrderedMap.get?_insert_self _ _ _
  obtain ⟨verdict, judged, -, settled⟩ := start_decided {} stored rfl rfl
  have denied : (Cluster.put {} (.run run)).Denies run (.buildNotFound "app") := .missing rfl rfl
  cases (judged _).mp (.denied rfl denied)
  have settles := (settled r after).1.mp ended
  refine ⟨?_, (settled r after).2 settles⟩
  cases settles with
  | fails now => rfl

end BuildRun

end BuildController
