import BuildController.Proofs.Discipline
import BuildController.Proofs.Lookups
import BuildController.Proofs.Recovery
import BuildController.Proofs.Registration

/-! The phase of the runs. A pass over a run writes the status of the run, and it creates a task run
under a name of the run. Builds, strategies and secrets stand still meanwhile, so the gate judges
every run as it did when the phase began; task runs come and none goes. -/
namespace BuildController

namespace Cluster

/-- A run of the watched namespace that is not done, was not started and is admitted by the gate can
get the task run. -/
inductive Launches (settings : Settings) (c : Cluster) (key : ObjectKey) : TaskRun → Prop
  | intro (watched : key.ns = settings.ns) (stored : c.runs.get? key = some run)
      (notDone : run.status.isDone = false) (unstarted : run.status.taskRunName = none)
      (admits : c.gate run = .admits (build, strategy)) (names : run.Names name) :
      Launches settings c key (TaskRun.plan settings name build run strategy.spec)

/-- What passes over runs can make of a control plane: they change the statuses of runs and add task
runs. -/
structure Progressed (settings : Settings) (c d : Cluster) : Prop where
  same : d = { c with runs := d.runs, taskRuns := d.taskRuns }
  runs : ∀ key, (d.runs.get? key).map BuildRun.bare = (c.runs.get? key).map BuildRun.bare
  kept : ∀ key taskRun, c.taskRuns.get? key = some taskRun → d.taskRuns.get? key = some taskRun
  created : ∀ key taskRun, d.taskRuns.get? key = some taskRun →
    c.taskRuns.get? key = some taskRun ∨
      taskRun.metadata.key = key ∧ ∃ owner, c.Launches settings owner taskRun

/-- What a pass over the run under the key does, in a phase that began at the control plane. -/
inductive Handles (settings : Settings) (c : Cluster) (key : ObjectKey) : Effect → Prop
  | inquires (inquires : effect.Inquires) : Handles settings c key effect
  | clock : Handles settings c key .clock
  | randomSuffix : Handles settings c key .randomSuffix
  | reads : Handles settings c key (.send (.getRun key.ns key.name))
  | looksUp : Handles settings c key (.send (.getTaskRun ns name))
  | creates (launches : c.Launches settings key taskRun) :
      Handles settings c key (.send (.createTaskRun taskRun))
  | writes (stored : c.runs.get? key = some run) (own : run.metadata.key = key) :
      Handles settings c key (.send (.updateRunStatus { run with status }))

/-- No run but that under the key can get a task run of the name. -/
def Reserved (settings : Settings) (c : Cluster) (key name : ObjectKey) : Prop :=
  ∀ owner taskRun, owner ≠ key → c.Launches settings owner taskRun → taskRun.metadata.key ≠ name

/-- Every run that can get a task run derives its name. -/
def Deriving (settings : Settings) (c : Cluster) : Prop :=
  ∀ key run taskRun, c.runs.get? key = some run → c.Launches settings key taskRun → run.Derives

variable {settings : Settings} {c d u : Cluster} {run : BuildRun} {key : ObjectKey}

theorem Progressed.refl (settings : Settings) (c : Cluster) : c.Progressed settings c :=
  ⟨rfl, fun _ => rfl, fun _ _ stored => stored, fun _ _ stored => .inl stored⟩

theorem Progressed.absent (progressed : c.Progressed settings d)
    (absent : c.runs.get? key = none) : d.runs.get? key = none := by
  have bare := progressed.runs key
  rw [absent] at bare
  exact Option.map_eq_none_iff.mp bare

theorem Progressed.shares (progressed : c.Progressed settings d) : c.Shares d := by
  rw [Shares, progressed.same]

/-- The gate judges a run as it did before. -/
theorem Progressed.gate (progressed : c.Progressed settings d) (run : BuildRun) :
    d.gate run = c.gate run := by
  rw [progressed.same]
  rfl

theorem Progressed.answer_updateRunStatus (progressed : c.Progressed settings u)
    (stored : c.runs.get? run.metadata.key = some run) :
    u.answer (.updateRunStatus { run with status }) =
      (.ok (), u.withRun { run with status }) := by
  obtain ⟨current, present, bare⟩ := exists_of_map_eq (progressed.runs _).symm stored
  have written : { current with status } = { run with status } :=
    congrArg (fun r : BuildRun => { r with status }) bare
  exact commit_modify?_ok.mpr ⟨current, present, by rw [written]; rfl⟩

theorem Progressed.withRun (progressed : c.Progressed settings u)
    (stored : c.runs.get? run.metadata.key = some run) :
    c.Progressed settings (u.withRun { run with status }) := by
  refine ⟨?_, fun k => ?_, progressed.kept, progressed.created⟩
  · rw [progressed.same]
    rfl
  · by_cases here : k = run.metadata.key
    · have written : (u.withRun { run with status }).runs.get? run.metadata.key =
          some { run with status } := OrderedMap.get?_insert_self _ _ _
      rw [here, stored, written]
      rfl
    · exact (congrArg _ (OrderedMap.get?_insert_of_ne _ _ here)).trans (progressed.runs k)

theorem answer_createTaskRun {c d : Cluster} {taskRun : TaskRun} :
    c.answer (.createTaskRun taskRun) = (.ok (), d) ↔
      c.taskRuns.get? taskRun.metadata.key = none ∧ d = c.withTaskRun taskRun := by
  cases free : c.taskRuns.get? taskRun.metadata.key with
  | none => simp [answer_createTaskRun_free free, eq_comm]
  | some taken => simp [answer_createTaskRun_taken free]

/-- A new task run under a free name hides none. -/
theorem get?_withTaskRun (free : c.taskRuns.get? taskRun.metadata.key = none)
    (stored : c.taskRuns.get? k = some old) :
    (c.withTaskRun taskRun).taskRuns.get? k = some old := by
  refine (OrderedMap.get?_insert_of_ne _ _ ?_).trans stored
  rintro rfl
  rw [free] at stored
  cases stored

theorem Progressed.withTaskRun (progressed : c.Progressed settings u)
    (launches : c.Launches settings key taskRun)
    (free : u.taskRuns.get? taskRun.metadata.key = none) :
    c.Progressed settings (u.withTaskRun taskRun) := by
  refine ⟨?_, progressed.runs, fun k old stored => ?_, fun k new stored => ?_⟩
  · rw [progressed.same]
    rfl
  · exact get?_withTaskRun free (progressed.kept k old stored)
  · simp only [Cluster.withTaskRun, OrderedMap.get?_insert] at stored
    split at stored
    · next here =>
      cases stored
      exact .inr ⟨here.symm, key, launches⟩
    · exact progressed.created k new stored

/-- What of a control plane no pass but that over the run under the key changes: the run, the task
runs that there are, and the names that are reserved for the run. -/
structure Spares (settings : Settings) (c : Cluster) (key : ObjectKey) (u d : Cluster) : Prop where
  run : d.runs.get? key = u.runs.get? key
  kept : ∀ name taskRun, u.taskRuns.get? name = some taskRun → d.taskRuns.get? name = some taskRun
  reserved : ∀ name, c.Reserved settings key name → d.taskRuns.get? name = u.taskRuns.get? name

theorem Handles.effect {effect : Effect} {answer : effect.Answer}
    (progressed : c.Progressed settings u) (handles : c.Handles settings key effect)
    (met : Meets .calm u effect answer d) :
    c.Progressed settings d ∧ ∀ other ≠ key, c.Spares settings other u d := by
  have unchanged (same : d = u) :
      c.Progressed settings d ∧ ∀ other ≠ key, c.Spares settings other u d := by
    subst same
    exact ⟨progressed, fun _ _ => ⟨rfl, fun _ _ stored => stored, fun _ _ => rfl⟩⟩
  cases handles with
  | inquires inquires =>
    rcases inquires with looks | ⟨ns, name, rfl⟩
    · exact unchanged (looks.reads.2 answer d met)
    · obtain ⟨value, answered, -⟩ := meets_calm_send.mp met
      cases answered
      exact unchanged rfl
  | clock | randomSuffix => exact unchanged met
  | reads | looksUp =>
    obtain ⟨value, answered, -⟩ := meets_calm_send.mp met
    cases answered
    exact unchanged rfl
  | creates launches =>
    obtain ⟨value, answered, -⟩ := meets_calm_send.mp met
    obtain ⟨free, rfl⟩ := answer_createTaskRun.mp answered
    refine ⟨progressed.withTaskRun launches free, fun other different => ⟨rfl,
      fun name old => get?_withTaskRun free, fun name reserved => ?_⟩⟩
    exact OrderedMap.get?_insert_of_ne _ _ (reserved key _ different.symm launches).symm
  | writes stored own =>
    subst own
    obtain ⟨value, answered, -⟩ := meets_calm_send.mp met
    rw [progressed.answer_updateRunStatus stored] at answered
    cases answered
    refine ⟨progressed.withRun stored, fun other different => ⟨?_, fun _ _ held => held,
      fun _ _ => rfl⟩⟩
    exact OrderedMap.get?_insert_of_ne _ _ different

/-- The discipline of passes over runs. -/
def progression (settings : Settings) (c : Cluster) : Discipline where
  sound := c.Progressed settings
  allows s effect := ∃ key, s = .run key ∧ c.Handles settings key effect
  spares s u d := ∀ key, s = .run key → c.Spares settings key u d
  live := c.Filed ∧ c.Deriving settings
  refl s d key same := ⟨rfl, fun _ _ stored => stored, fun _ _ => rfl⟩
  trans first second key same := by
    obtain ⟨run, kept, reserved⟩ := first key same
    obtain ⟨run', kept', reserved'⟩ := second key same
    exact ⟨run'.trans run, fun name t stored => kept' name t (kept name t stored),
      fun name r => (reserved' name r).trans (reserved name r)⟩
  keeps := by
    rintro t u d effect answer progressed ⟨key, rfl, handles⟩ met
    obtain ⟨progressed', spares⟩ := handles.effect progressed met
    refine ⟨progressed', ?_⟩
    rintro s other key' rfl
    refine spares key' ?_
    rintro rfl
    exact other rfl

theorem steady_of_inquires {effect : Effect} (inquires : effect.Inquires) :
    (c.progression settings).Steady (.run key) effect where
  allowed := ⟨key, rfl, .inquires inquires⟩
  answered v _ := by
    rcases inquires with looks | ⟨ns, name, rfl⟩
    · obtain ⟨answer, met⟩ := looks.reads.1
      exact ⟨answer, v, met⟩
    · exact ⟨_, v, meets_calm_send.mpr ⟨_, rfl, rfl⟩⟩
  same := by
    intro u v d answer first follows met
    rcases inquires with looks | ⟨ns, name, rfl⟩
    · have unchanged := looks.reads.2 answer d met
      subst unchanged
      exact ⟨rfl, looks.same (first.shares.between follows.sound.shares) met⟩
    · obtain ⟨value, answered, rfl⟩ := meets_calm_send.mp met
      have builds : v.builds = u.builds := by rw [follows.sound.same, first.same]
      cases answered
      refine ⟨rfl, meets_calm_send.mpr ⟨_, ?_, rfl⟩⟩
      rw [builds]
      rfl

end Cluster

theorem TaskRunPlan.nameSuffix?_length (found : nameSuffix? uid = some suffix) :
    suffix.toList.length = 5 := by
  unfold nameSuffix? at found
  dsimp only at found
  split at found
  · next long =>
    cases found
    rw [String.toList_ofList]
    exact long
  · cases found

/-- Runs of different names derive different names for their task runs. -/
theorem BuildRun.Names.owner {run other : BuildRun} (derives : run.Derives)
    (derives' : other.Derives) (names : run.Names name) (names' : other.Names name) :
    run.metadata.name = other.metadata.name := by
  obtain ⟨suffix, derived⟩ := derives.suffix
  obtain ⟨suffix', derived'⟩ := derives'.suffix
  simp only [Names, derived] at names
  simp only [Names, derived'] at names'
  have same : run.metadata.name ++ "-" ++ suffix = other.metadata.name ++ "-" ++ suffix' :=
    names.symm.trans names'
  have letters := congrArg String.toList same
  rw [String.toList_append, String.toList_append, String.toList_append, String.toList_append]
    at letters
  have lengths : suffix.toList.length = suffix'.toList.length := by
    rw [TaskRunPlan.nameSuffix?_length derived, TaskRunPlan.nameSuffix?_length derived']
  have stems := (List.append_inj' letters lengths).1
  exact String.toList_inj.mp (List.append_cancel_right stems)

namespace Cluster

variable {settings : Settings} {c : Cluster}

/-- No two stored runs of a namespace derive the same name. -/
theorem Filed.owner_eq {run other : BuildRun} (filed : c.Filed)
    (stored : c.runs.get? key = some run) (stored' : c.runs.get? owner = some other)
    (derives : run.Derives) (derives' : other.Derives) (names : run.Names name)
    (names' : other.Names name)
    (ns : other.metadata.namespaceName = run.metadata.namespaceName) : owner = key := by
  rw [← filed.runs _ _ stored, ← filed.runs _ _ stored', Metadata.key, Metadata.key, ns,
    names.owner derives derives' names']

/-- If names are derived, no two task runs that can be created have the same name. -/
theorem Launches.unique (filed : c.Filed) (derives : c.Deriving settings)
    (launches : c.Launches settings key taskRun) (launches' : c.Launches settings owner other)
    (same : other.metadata.key = taskRun.metadata.key) : owner = key ∧ other = taskRun := by
  have derived := fun run stored => derives key run taskRun stored launches
  have derived' := fun run stored => derives owner run other stored launches'
  cases launches with
  | @intro run _ _ name _ stored _ _ admits names =>
    cases launches' with
    | @intro run' _ _ name' _ stored' _ _ admits' names' =>
      obtain ⟨ns, here⟩ := ObjectKey.mk.inj same
      change name' = name at here
      change run'.metadata.namespaceName = run.metadata.namespaceName at ns
      subst here
      have owners := filed.owner_eq stored stored' (derived run stored) (derived' run' stored')
        names names' ns
      subst owners
      cases stored.symm.trans stored'
      cases admits.symm.trans admits'
      exact ⟨rfl, rfl⟩

theorem Launches.reserved (filed : c.Filed) (derives : c.Deriving settings)
    (launches : c.Launches settings key taskRun) :
    c.Reserved settings key taskRun.metadata.key := by
  intro owner other different launches' same
  exact different (launches.unique filed derives launches' same).1

end Cluster

end BuildController
