import Mathlib.Logic.Relation
import BuildController.Proofs.Retiming

/-! Recovery from failed passes. The name of a task run is derived from its run, so a pass that
failed after it created the task run is repeated by one that finds it there: however many passes
fail, the first one that does not fail leaves behind what it would have left behind alone. -/
namespace BuildController

variable {c : Cluster} {run : BuildRun}

namespace BuildRun

/-- A pass over the named run that a failed request ends. The request has no effect, unless it is
the creation of a task run. -/
def FailingPass (settings : Settings) (ns name : String) (before after : Cluster) : Prop :=
  ∃ error, (advance settings ns name).Ends (Cluster.Meets .unreliable) before
    (.error (.request error)) after

/-- The identifier of the run has the five letters and digits that the name of a task run needs. -/
def Derives (run : BuildRun) : Prop := 5 ≤ (run.metadata.uid.toList.filter Char.isAlphanum).length

instance : Decidable run.Derives := inferInstanceAs (Decidable (5 ≤ _))

theorem Derives.suffix (derives : run.Derives) :
    ∃ suffix, TaskRunPlan.nameSuffix? run.metadata.uid = some suffix := by
  unfold Derives at derives
  unfold TaskRunPlan.nameSuffix?
  dsimp only
  rw [if_pos (by rw [List.length_take, List.length_map]; omega)]
  exact ⟨_, rfl⟩

theorem Names.unique (derives : run.Derives) (first : run.Names name) (other : run.Names name') :
    name = name' := by
  obtain ⟨suffix, derived⟩ := derives.suffix
  simp only [Names, derived] at first other
  rw [first, other]

end BuildRun

namespace Cluster

theorem gate_withTaskRun (c : Cluster) (taskRun : TaskRun) (run : BuildRun) :
    (c.withTaskRun taskRun).gate run = c.gate run := rfl

theorem Ensures.gate (ensures : c.Ensures settings run name build strategy prepared)
    (other : BuildRun) : prepared.gate other = c.gate other := by
  cases ensures with
  | found => rfl
  | created => exact gate_withTaskRun _ _ _

/-- Once it is ensured, a task run with a derived name is there. -/
theorem Ensures.present (derives : run.Derives) (names : run.Names name)
    (ensures : c.Ensures settings run name build strategy prepared) :
    ∃ taskRun, prepared.taskRuns.get? ⟨run.metadata.namespaceName, name⟩ = some taskRun := by
  cases ensures with
  | found present => exact ⟨_, present⟩
  | created absent fresh free =>
    cases names.unique derives fresh
    exact ⟨_, OrderedMap.get?_insert_self _ _ _⟩

theorem Ensures.again (derives : run.Derives) (names : run.Names name)
    (first : c.Ensures settings run name build strategy prepared)
    (second : prepared.Ensures settings run name build' strategy' after) : after = prepared := by
  obtain ⟨taskRun, present⟩ := first.present derives names
  cases second with
  | found => rfl
  | created absent =>
    rw [present] at absent
    cases absent

theorem Ensures.unique (derives : run.Derives)
    (first : c.Ensures settings run name build strategy prepared)
    (second : c.Ensures settings run name build strategy after) : after = prepared := by
  cases first with
  | found present =>
    cases second with
    | found => rfl
    | created absent =>
      rw [present] at absent
      cases absent
  | created absent fresh =>
    cases second with
    | found present =>
      rw [present] at absent
      cases absent
    | created _ other =>
      cases fresh.unique derives other
      rfl

theorem Prepares.runs (prepares : c.Prepares settings run name prepared) :
    prepared.runs = c.runs := by
  obtain ⟨_, build, strategy, _, _, ensures⟩ := prepares
  exact ensures.runs

theorem Prepares.again (derives : run.Derives) (first : c.Prepares settings run name prepared)
    (second : prepared.Prepares settings run name' after) : name' = name ∧ after = prepared := by
  obtain ⟨_, build, strategy, _, names, ensures⟩ := first
  obtain ⟨_, build', strategy', _, other, repeated⟩ := second
  cases names.unique derives other
  exact ⟨rfl, ensures.again derives names repeated⟩

theorem Prepares.unique (derives : run.Derives) (first : c.Prepares settings run name prepared)
    (second : c.Prepares settings run name' after) : name' = name ∧ after = prepared := by
  obtain ⟨_, build, strategy, admits, names, ensures⟩ := first
  obtain ⟨_, build', strategy', admits', other, repeated⟩ := second
  cases names.unique derives other
  rw [admits] at admits'
  cases admits'
  exact ⟨rfl, ensures.unique derives repeated⟩

/-- What failed passes over a run leave behind: the control plane as it was, or prepared for the
run. -/
def Awaits (settings : Settings) (run : BuildRun) (c middle : Cluster) : Prop :=
  middle = c ∨ run.status.isDone = false ∧ ∃ name, c.Prepares settings run name middle

theorem Awaits.stored (awaits : Awaits settings run c middle)
    (stored : c.runs.get? run.metadata.key = some run) :
    middle.runs.get? run.metadata.key = some run := by
  rcases awaits with rfl | ⟨_, name, prepares⟩
  · exact stored
  · rw [prepares.runs]
    exact stored

theorem Awaits.next (derives : run.Derives) (awaits : Awaits settings run c middle)
    (advances : middle.Advances .unreliable settings run (.error (.request error)) after) :
    Awaits settings run c after := by
  cases advances with
  | interrupted => exact awaits
  | aborted notDone _ prepares =>
    rcases awaits with rfl | ⟨_, name, prepared⟩
    · exact .inr ⟨notDone, _, prepares⟩
    · obtain ⟨-, rfl⟩ := prepared.again derives prepares
      exact .inr ⟨notDone, name, prepared⟩
  | lost _ _ loses =>
    -- A failed request that took effect is a creation, and never the write of a status.
    obtain ⟨taskRun, impossible⟩ := loses
    cases impossible

theorem Awaits.reaches {ns name : String} (derives : run.Derives)
    (stored : c.runs.get? run.metadata.key = some run)
    (named : run.metadata.key = ⟨ns, name⟩)
    (failed : Relation.ReflTransGen (BuildRun.FailingPass settings ns name) c middle) :
    Awaits settings run c middle := by
  cases named
  -- The passes are added at the end, as the next one starts from what the others leave behind.
  induction failed with
  | refl => exact .inl rfl
  | tail earlier last ih =>
    obtain ⟨error, ended⟩ := last
    exact ih.next derives (BuildRun.advance_only (ih.stored stored) ended)

/-- What a prepared run becomes, it could become before it was prepared. -/
theorem Prepares.decides (derives : run.Derives) (prepares : c.Prepares settings run name middle)
    (decides : middle.Decides settings run next prepared) :
    c.Decides settings run next prepared := by
  obtain ⟨name', now, again, rfl⟩ | ⟨failure, now, fails, rfl, rfl⟩ :=
    decides.of_unstarted prepares.1
  · obtain ⟨rfl, rfl⟩ := prepares.again derives again
    exact .started prepares now
  · obtain ⟨unstarted, build, strategy, admits, names, ensures⟩ := prepares
    rw [ensures.gate, admits] at fails
    cases fails

/-- Without hazards, a pass after failed ones ends as it would have ended without them. -/
theorem Awaits.last (derives : run.Derives) (awaits : Awaits settings run c middle)
    (advances : middle.Advances .calm settings run r final) :
    c.Advances .calm settings run r final := by
  rcases awaits with rfl | ⟨notDone, name, prepares⟩
  · exact advances
  · obtain ⟨done, -, -⟩ | ⟨-, next, prepared, decides, rfl, rfl⟩ | ⟨-, -, name', waits, rfl, rfl⟩ :=
      advances.of_calm
    · rw [notDone] at done
      cases done
    · exact .written notDone (prepares.decides derives decides)
    · obtain ⟨_, build, strategy, admits, _, ensures⟩ := prepares
      rw [ensures.gate, admits] at waits
      cases waits

/-- What a run becomes depends on nothing but the clock, if the name of its task run is derived. -/
theorem Decides.unique (derives : run.Derives) (first : c.Decides settings run next prepared)
    (second : c.Decides settings run other after) :
    after = prepared ∧ ∃ now now', next.Retimed now now' other := by
  cases recorded : run.status.taskRunName with
  | some name =>
    obtain ⟨rfl, now, rfl⟩ := first.of_recorded recorded
    obtain ⟨rfl, now', rfl⟩ := second.of_recorded recorded
    refine ⟨rfl, now, now', ?_⟩
    cases after.taskRuns.get? ⟨run.metadata.namespaceName, name⟩ with
    | none => exact run.retimed_failed _
    | some taskRun => exact Observation.retimed_observe run taskRun
  | none =>
    obtain ⟨name, now, prepares, rfl⟩ | ⟨failure, now, fails, rfl, rfl⟩ :=
      first.of_unstarted recorded
    · obtain ⟨name', now', again, rfl⟩ | ⟨failure, now', fails, rfl, rfl⟩ :=
        second.of_unstarted recorded
      · obtain ⟨rfl, rfl⟩ := prepares.unique derives again
        exact ⟨rfl, now, now', run.retimed_started _⟩
      · obtain ⟨_, _, _, admits, _, _⟩ := prepares
        rw [admits] at fails
        cases fails
    · obtain ⟨name', now', again, rfl⟩ | ⟨failure', now', fails', rfl, rfl⟩ :=
        second.of_unstarted recorded
      · obtain ⟨_, _, _, admits, _, _⟩ := again
        rw [admits] at fails
        cases fails
      · rw [fails] at fails'
        cases fails'
        exact ⟨rfl, now, now', run.retimed_failed _⟩

/-- Without hazards, two passes from one state differ in nothing but what the clock showed. -/
theorem Advances.unique (derives : run.Derives) (first : c.Advances .calm settings run r final)
    (second : c.Advances .calm settings run r' final') :
    r' = r ∧ ∃ now now', final.Retimed now now' final' := by
  obtain ⟨done, rfl, rfl⟩ | ⟨notDone, next, prepared, decides, rfl, rfl⟩ |
    ⟨notDone, unstarted, name, waits, rfl, rfl⟩ := first.of_calm
  · obtain ⟨-, rfl, rfl⟩ | ⟨notDone, -⟩ | ⟨notDone, -⟩ := second.of_calm
    · exact ⟨rfl, default, default, .refl _⟩
    all_goals
      rw [done] at notDone
      cases notDone
  · obtain ⟨done, -⟩ | ⟨-, next', prepared', decides', rfl, rfl⟩ | ⟨-, unstarted, name, waits, -⟩ :=
      second.of_calm
    · rw [notDone] at done
      cases done
    · obtain ⟨rfl, now, now', retimed⟩ := decides.unique derives decides'
      exact ⟨rfl, now, now', retimed_withRun _ retimed⟩
    · exact (decides.not_waits unstarted waits).elim
  · obtain ⟨done, -⟩ | ⟨-, next', prepared', decides', -⟩ | ⟨-, -, name', waits', rfl, rfl⟩ :=
      second.of_calm
    · rw [notDone] at done
      cases done
    · exact (decides'.not_waits unstarted waits).elim
    · rw [waits] at waits'
      cases waits'
      exact ⟨rfl, default, default, .refl _⟩

/-- Without hazards, a pass creates at most one task run, and it is the one that the run records. -/
theorem Advances.creates (advances : c.Advances .calm settings run r final)
    (derives : run.Derives) :
    final.taskRuns = c.taskRuns ∨ ∃ taskRun next, c.taskRuns.get? taskRun.metadata.key = none ∧
      final.taskRuns = c.taskRuns.insert taskRun.metadata.key taskRun ∧
      final.runs.get? run.metadata.key = some next ∧
      next.status.taskRunName = some taskRun.metadata.name := by
  obtain ⟨-, -, rfl⟩ | ⟨-, next, prepared, decides, -, rfl⟩ | ⟨-, -, -, -, -, rfl⟩ :=
    advances.of_calm
  · exact .inl rfl
  · cases decides with
    | started prepares now =>
      obtain ⟨_, build, strategy, _, names, ensures⟩ := prepares
      cases ensures with
      | found => exact .inl rfl
      | created absent fresh free =>
        cases names.unique derives fresh
        exact .inr ⟨TaskRun.plan settings _ build run strategy.spec, _, free, rfl,
          OrderedMap.get?_insert_self _ _ _, rfl⟩
    | failed | lost | observed => exact .inl rfl
  · exact .inl rfl

end Cluster

namespace BuildRun

/-- Passes over a run that fail one after the other cannot do harm. If the name of its task run is
derived, a pass without failures after them ends just as it could have ended without them, all
such ends differ in nothing but what the clock showed, and of all task runs at most one is created,
the one that the run records. -/
theorem failing_passes_harmless (settings : Settings)
    (stored : c.runs.get? run.metadata.key = some run) (derives : run.Derives)
    (failed : Relation.ReflTransGen
      (FailingPass settings run.metadata.namespaceName run.metadata.name) c middle) :
    (∃ r final, (advance settings run.metadata.namespaceName run.metadata.name).Ends
      (Cluster.Meets .calm) middle r final) ∧
    ∀ r final, (advance settings run.metadata.namespaceName run.metadata.name).Ends
      (Cluster.Meets .calm) middle r final →
      (advance settings run.metadata.namespaceName run.metadata.name).Ends
        (Cluster.Meets .calm) c r final ∧
      (∀ r' final', (advance settings run.metadata.namespaceName run.metadata.name).Ends
        (Cluster.Meets .calm) c r' final' →
        r' = r ∧ ∃ now now', final.Retimed now now' final') ∧
      (final.taskRuns = c.taskRuns ∨ ∃ taskRun next,
        c.taskRuns.get? taskRun.metadata.key = none ∧
        final.taskRuns = c.taskRuns.insert taskRun.metadata.key taskRun ∧
        final.runs.get? run.metadata.key = some next ∧
        next.status.taskRunName = some taskRun.metadata.name) := by
  have awaits := Cluster.Awaits.reaches derives stored rfl failed
  have kept := awaits.stored stored
  constructor
  · obtain ⟨r, final, advances⟩ := Cluster.exists_advances settings middle run
    exact ⟨r, final, (advance_calm_iff kept).mpr advances⟩
  · intro r final ended
    have alone := awaits.last derives ((advance_calm_iff kept).mp ended)
    refine ⟨(advance_calm_iff stored).mpr alone, fun r' final' ended' => ?_, alone.creates derives⟩
    exact alone.unique derives ((advance_calm_iff stored).mp ended')

/-- A pass that failed although it created the task run is one of them. -/
theorem failing_passes_harmless_created :
    let run : BuildRun :=
      { metadata := { name := "run", uid := "0a1b2c" }, spec := { build := { name := "app" } } }
    let build : Build :=
      { metadata := { name := "app" }
        spec := { strategy := { name := "kaniko" }, output := { image := "registry/app" } }
        status := { registered := some .true } }
    let strategy : BuildStrategy := { metadata := { name := "kaniko" }, spec := {} }
    let c := (((Cluster.put {} (.build build)).put (.strategy strategy)).put (.run run))
    let middle := c.withTaskRun (TaskRun.plan {} "run-0a1b2" build run strategy.spec)
    FailingPass {} "" "run" c middle ∧
      ∀ r final, (advance {} "" "run").Ends (Cluster.Meets .calm) middle r final →
        (advance {} "" "run").Ends (Cluster.Meets .calm) c r final := by
  intro run build strategy c middle
  have stored : c.runs.get? run.metadata.key = some run := OrderedMap.get?_insert_self _ _ _
  have admits : c.gate run = .admits (build, strategy) := by rfl
  have names : run.Names "run-0a1b2" := by
    have suffix : TaskRunPlan.nameSuffix? run.metadata.uid = some "0a1b2" := by decide
    unfold Names
    rw [suffix]
    rfl
  have prepares : c.Prepares {} run "run-0a1b2" middle :=
    ⟨rfl, build, strategy, admits, names, .created rfl names rfl⟩
  have failing : FailingPass {} "" "run" c middle :=
    ⟨.transport, ends_advance_unwritten stored rfl (.started prepares default) trivial _⟩
  refine ⟨failing, fun r final ended => ?_⟩
  have derives : run.Derives := by decide
  have harmless := failing_passes_harmless {} stored derives (.single failing)
  exact (harmless.2 r final ended).1

end BuildRun

end BuildController
