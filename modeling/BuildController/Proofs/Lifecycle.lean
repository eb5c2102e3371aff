import BuildController.Proofs.Status
import BuildController.Proofs.System

/-! The life of a run. As long as no two passes are under way over it at once, its status only ever
moves forward: what is known about the run is not forgotten, and a run that is done stays as it
is. -/
namespace BuildController

namespace RunStatus

/-- The one status can be followed by the other. -/
structure Precedes (old new : RunStatus) : Prop where
  final : old.isDone = true → new = old
  taskRunName : ∀ name, old.taskRunName = some name → new.taskRunName = some name
  startTime : ∀ time, old.startTime = some time → new.startTime = some time
  succeeded : old.succeeded?.isSome → new.succeeded?.isSome

theorem Precedes.refl (s : RunStatus) : s.Precedes s where
  final _ := rfl
  taskRunName _ := id
  startTime _ := id
  succeeded := id

theorem Precedes.trans {s t u : RunStatus} (first : s.Precedes t) (second : t.Precedes u) :
    s.Precedes u where
  final done := by
    have same := first.final done
    subst same
    exact second.final done
  taskRunName name named := second.taskRunName name (first.taskRunName name named)
  startTime time started := second.startTime time (first.startTime time started)
  succeeded present := second.succeeded (first.succeeded present)

theorem empty_precedes (s : RunStatus) : Precedes {} s where
  final done := by cases done
  taskRunName _ named := by cases named
  startTime _ started := by cases started
  succeeded present := by cases present

theorem Says.follows {s t : RunStatus} (reported : t.Says status reason message)
    (notDone : s.isDone = false)
    (taskRunName : ∀ name, s.taskRunName = some name → t.taskRunName = some name)
    (startTime : ∀ time, s.startTime = some time → t.startTime = some time) : s.Precedes t where
  final done := by
    rw [notDone] at done
    cases done
  taskRunName := taskRunName
  startTime := startTime
  succeeded _ := by
    obtain ⟨time, found⟩ := reported
    rw [found]
    rfl

end RunStatus

namespace BuildRun

variable {run next : BuildRun}

theorem Becomes.follows (becomes : run.Becomes next) (notDone : run.status.isDone = false) :
    run.status.Precedes next.status := by
  cases becomes with
  | started unstarted now name =>
    apply (run.started_says now name).follows notDone
    · intro _ named
      rw [unstarted] at named
      cases named
    · intro time begun
      simp [BuildRun.started, RunStatus.setSucceeded, begun]
  | failed now failure =>
    apply (run.failed_says now failure).follows notDone
    · exact fun _ => id
    · exact fun _ => id
  | observed recorded now taskRun =>
    apply (Observation.observe_says now run taskRun).follows notDone
    all_goals
      obtain ⟨failure, output, sources, status, -⟩ := Observation.observe_status now run taskRun
      rw [status]
    · exact fun _ => id
    · intro time started
      simp [Observation.conditions, RunStatus.setSucceeded, started]

theorem Becomes.metadata (becomes : run.Becomes next) : next.metadata = run.metadata := by
  cases becomes with
  | started | failed => rfl
  | observed => rw [Observation.observe_eq]

end BuildRun

namespace Cluster

variable {c d : Cluster}

/-- The status that a run would get follows the stored one. -/
def Follows (c : Cluster) (key : ObjectKey) (next : BuildRun) : Prop :=
  next.metadata.key = key ∧
    ∀ run, c.runs.get? key = some run → run.status.Precedes next.status

/-- What would have followed still does if the status of the stored run was not written since. -/
theorem Follows.carried (follows : c.Follows key next)
    (carried : ∀ run, d.runs.get? key = some run → c.Carries key run.status) :
    d.Follows key next := by
  refine ⟨follows.1, fun run stored => ?_⟩
  have unwritten := carried run stored
  unfold Carries at unwritten
  split at unwritten
  · next old found =>
    rw [unwritten]
    exact follows.2 old found
  · rw [unwritten]
    exact RunStatus.empty_precedes _

end Cluster

namespace System

variable {s t : System}

/-- Runs are stored under their own names, and whatever the passes under way may write follows what
is stored. -/
structure Orderly (settings : Settings) (s : System) : Prop where
  keyed : s.cluster.Keyed
  flights : ∀ flight ∈ s.flights, flight.Safe settings s.cluster.Follows

theorem Orderly.becomes (orderly : s.Orderly settings)
    (stored : s.cluster.runs.get? key = some run) (notDone : run.status.isDone = false)
    (becomes : run.Becomes next) : s.cluster.Follows key next := by
  refine ⟨?_, fun other found => ?_⟩
  · rw [becomes.metadata]
    exact orderly.keyed key run stored
  · rw [stored] at found
    cases found
    exact becomes.follows notDone

theorem Orderly.precedes (orderly : s.Orderly settings) (step : Step settings s t)
    (stored : s.cluster.runs.get? key = some run) (stored' : t.cluster.runs.get? key = some run') :
    run.status.Precedes run'.status := by
  obtain carried | ⟨subject, effect, resume, next, member, writes, named, same⟩ :=
    step.carries stored'
  · simp only [Cluster.Carries, stored] at carried
    rw [carried]
    exact .refl _
  · obtain ⟨⟨key', _, follows⟩, _⟩ := (orderly.flights _ member).writes writes
    cases follows.1.symm.trans named
    rw [same]
    exact follows.2 run stored

theorem Exclusive.others {flight : Flight} {before after : List Flight}
    (exclusive : (⟨c, before ++ flight :: after⟩ : System).Exclusive)
    (about : flight.subject = .run key) : ∀ other ∈ before ++ after, other.subject ≠ .run key := by
  obtain ⟨-, later, earlier⟩ := List.pairwise_append.mp exclusive
  intro other member
  rcases List.mem_append.mp member with first | last
  · intro same
    exact earlier other first flight List.mem_cons_self key same about
  · exact (List.pairwise_cons.mp later).1 other last key about

theorem Orderly.next (orderly : s.Orderly settings) (step : Step settings s t)
    (exclusive : s.Exclusive) : t.Orderly settings where
  keyed := step.keyed orderly.keyed
  flights := by
    cases step with
    | launch subject =>
      exact List.forall_mem_cons.mpr ⟨Flight.safe_launch settings subject, orderly.flights⟩
    | leave =>
      have safe := orderly.flights
      simp only [List.forall_mem_append, List.forall_mem_cons] at safe ⊢
      exact ⟨safe.1, safe.2.2⟩
    | intervene intervenes =>
      intro flight member
      exact (orderly.flights flight member).mono fun key next _ follows =>
        follows.carried fun run stored => intervenes.carries key run stored
    | @perform c d subject before after effect resume answer handled =>
      have safe := orderly.flights
      simp only [List.forall_mem_append, List.forall_mem_cons] at safe
      obtain ⟨earlier, performing, later⟩ := safe
      have others : ∀ flight ∈ before ++ after, flight.Safe settings d.Follows := by
        intro flight member
        have safe : flight.Safe settings c.Follows := by
          rcases List.mem_append.mp member with first | last
          · exact earlier flight first
          · exact later flight last
        refine safe.mono fun key next about follows => follows.carried fun run stored => ?_
        -- Another pass wrote the status only if it is about the same run.
        obtain carried | ⟨written, writes, named, -⟩ := handled.carries stored
        · exact carried
        · obtain ⟨⟨key', same, follows'⟩, -⟩ := performing.writes writes
          cases follows'.1.symm.trans named
          exact (exclusive.others same flight member about).elim
      have itself : Flight.Safe settings d.Follows ⟨subject, resume answer⟩ := by
        cases writes : effect.runWrite? with
        -- A pass that wrote its status has nothing left to write that would have to follow it.
        | some next => exact Flight.safe_of_quiet ((performing.writes writes).2 answer)
        | none =>
          have safe := performing.next handled fun key run next stored notDone becomes =>
            orderly.becomes stored notDone becomes
          refine safe.mono fun key next _ follows => follows.carried fun run stored => ?_
          obtain carried | ⟨written, writes', -⟩ := handled.carries stored
          · exact carried
          · cases writes.symm.trans writes'
      simp only [List.forall_mem_append, List.forall_mem_cons] at others ⊢
      exact ⟨others.1, itself, others.2⟩

theorem Orderly.reaches (orderly : s.Orderly settings) (first : s.Exclusive)
    (within : ∀ u, guarded u → u.Exclusive) (path : Path settings guarded s t) :
    t.Orderly settings ∧ t.Exclusive := by
  induction path with
  | refl => exact ⟨orderly, first⟩
  | tail earlier last ih => exact ⟨ih.1.next last.1 ih.2, within _ last.2⟩

theorem orderly_of_idle (keyed : s.cluster.Keyed) (idle : s.flights = []) :
    s.Orderly settings ∧ s.Exclusive := by
  refine ⟨⟨keyed, ?_⟩, ?_⟩
  · simp [idle]
  · unfold Exclusive
    rw [idle]
    exact .nil

theorem present_of_path {within : System → Prop} (present : (s.cluster.runs.get? key).isSome)
    (path : Path settings (fun u => within u ∧ (u.cluster.runs.get? key).isSome) s t) :
    (t.cluster.runs.get? key).isSome := by
  cases path with
  | refl => exact present
  | tail _ last => exact last.2.2

/-- Each step on a path moves the status of a run forward, as long as the run is stored. -/
theorem Orderly.precedes_of_path (orderly : s.Orderly settings) (exclusive : s.Exclusive)
    (path : Path settings (fun u => u.Exclusive ∧ (u.cluster.runs.get? key).isSome) s t)
    (stored : s.cluster.runs.get? key = some run) (stored' : t.cluster.runs.get? key = some run') :
    run.status.Precedes run'.status := by
  have present : (s.cluster.runs.get? key).isSome := by simp [stored]
  induction path generalizing run' with
  | refl =>
    cases stored.symm.trans stored'
    exact .refl _
  | tail earlier step ih =>
    obtain ⟨orderly', exclusive'⟩ := orderly.reaches exclusive (fun _ => And.left) earlier
    obtain ⟨middle, found⟩ := Option.isSome_iff_exists.mp (present_of_path present earlier)
    exact (ih found).trans (orderly'.precedes step.1 found stored')

/-- While a run stays stored, and no two passes are under way over one run, the status of the run
only moves forward: if it is final, it stays as it is, a task run and a start time that are known
stay known, and a condition that is there does not disappear. -/
theorem status_moves_forward (settings : Settings) (keyed : s₀.cluster.Keyed)
    (idle : s₀.flights = []) (history : Path settings Exclusive s₀ s)
    (future : Path settings (fun u => u.Exclusive ∧ (u.cluster.runs.get? key).isSome) s t)
    (stored : s.cluster.runs.get? key = some run) (stored' : t.cluster.runs.get? key = some run') :
    run.status.Precedes run'.status := by
  obtain ⟨begun, alone⟩ := orderly_of_idle keyed idle
  obtain ⟨orderly, exclusive⟩ := begun.reaches alone (fun _ => id) history
  exact orderly.precedes_of_path exclusive future stored stored'

/-- A run failed as its build is missing, and one more pass has begun since. -/
theorem status_moves_forward_failed :
    let run : BuildRun := { metadata := { name := "run" }, spec := { build := { name := "app" } } }
    let failed : BuildRun := run.failed default (.buildNotFound "app")
    let c := Cluster.put {} (.run run)
    let s : System := ⟨c.withRun failed, []⟩
    let t : System := ⟨c.withRun failed, [⟨.run ⟨"", "run"⟩, BuildRun.advance {} "" "run"⟩]⟩
    Path {} Exclusive ⟨c, []⟩ s ∧
      Path {} (fun u => u.Exclusive ∧ (u.cluster.runs.get? ⟨"", "run"⟩).isSome) s t ∧
      failed.status.Precedes failed.status := by
  intro run failed c s t
  have stored : c.runs.get? run.metadata.key = some run := OrderedMap.get?_insert_self _ _ _
  have stored' : s.cluster.runs.get? ⟨"", "run"⟩ = some failed := OrderedMap.get?_insert_self _ _ _
  have ended : (Subject.pass {} (.run ⟨"", "run"⟩)).Ends (Cluster.Meets .all) c (.ok ())
      (c.withRun failed) :=
    BuildRun.ends_advance_written stored rfl (.failed rfl rfl default)
  have history : Path {} Exclusive ⟨c, []⟩ s :=
    path_of_pass (fun _ => .nil) (fun _ _ => List.pairwise_singleton _ _) ended
  have future : Path {} (fun u => u.Exclusive ∧ (u.cluster.runs.get? ⟨"", "run"⟩).isSome) s t :=
    .single ⟨.launch (.run ⟨"", "run"⟩), List.pairwise_singleton _ _, by rw [stored']; rfl⟩
  have keyed : c.Keyed := Cluster.keyed_put Cluster.keyed_empty _
  exact ⟨history, future, status_moves_forward {} keyed rfl history future stored' stored'⟩

end System

end BuildController
