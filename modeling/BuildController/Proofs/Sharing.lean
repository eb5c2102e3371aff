import BuildController.Proofs.Conduct
import BuildController.Proofs.Provenance

/-! Task runs are not shared. Runs are told apart by their names, which are never used again, and
all task runs are created by passes. As the names of task runs are derived, a task run of the name
that a run derives was created for this run, also if the pass that finds it did not create it. -/
namespace BuildController

/-- The run has the identifier that belongs to its name, and it records no task run but its own. -/
structure BuildRun.Genuine (uid : ObjectKey → String) (run : BuildRun) : Prop where
  identified : run.metadata.uid = uid run.metadata.key
  derives : run.Derives
  recorded : ∀ name, run.status.taskRunName = some name → run.Names name

/-- What passes are told where all runs are genuine. -/
def Reports.genuine (uid : ObjectKey → String) : Reports where
  build _ _ := True
  run _ run := run.Genuine uid
  listed _ run := run.Genuine uid

namespace Cluster

/-- What others do: they create no task run and write only the status of one, and every run that
they create or change has the identifier that belongs to its name. -/
structure Tends (uid : ObjectKey → String) (before after : Cluster) : Prop
    extends before.Intervenes after where
  identified : ∀ key run, after.runs.get? key = some run →
    run.metadata.uid = uid key ∧ run.Derives
  taskRuns : ∀ key taskRun, after.taskRuns.get? key = some taskRun →
    ∃ old, before.taskRuns.get? key = some old ∧
      taskRun = { old with status := taskRun.status }

/-- All runs are genuine, and every task run belongs to a run that derives its name. -/
structure Unshared (uid : ObjectKey → String) (c : Cluster) : Prop where
  keyed : c.Keyed
  runs : ∀ key run, c.runs.get? key = some run → run.Genuine uid
  taskRuns : ∀ key taskRun, c.taskRuns.get? key = some taskRun →
    ∃ run : BuildRun, run.Genuine uid ∧ run.metadata.namespaceName = key.ns ∧
      run.Names key.name ∧ Owns run taskRun

end Cluster

/-- One step, if others do only what they are allowed to. -/
inductive System.StepAmong (settings : Settings) (others : Cluster → Cluster → Prop) :
    System → System → Prop
  | launch {flights : List Flight} (subject : Subject) :
      StepAmong settings others ⟨c, flights⟩ ⟨c, ⟨subject, subject.pass settings⟩ :: flights⟩
  | perform {before after : List Flight} {effect : Effect} {resume : effect.Answer → Pass Unit}
      {answer : effect.Answer} (met : Cluster.Meets .all c effect answer d) :
      StepAmong settings others ⟨c, before ++ ⟨subject, .perform effect resume⟩ :: after⟩
        ⟨d, before ++ ⟨subject, resume answer⟩ :: after⟩
  | leave {before after : List Flight} :
      StepAmong settings others ⟨c, before ++ flight :: after⟩ ⟨c, before ++ after⟩
  | intervene {flights : List Flight} (allowed : others c d) :
      StepAmong settings others ⟨c, flights⟩ ⟨d, flights⟩

variable {uid : ObjectKey → String} {settings : Settings}

namespace BuildRun

variable {run other : BuildRun}

/-- The names of the task run of a run depend on its name and its identifier. -/
theorem Names.congr (names : run.Names name) (same : other.metadata.name = run.metadata.name)
    (uid : other.metadata.uid = run.metadata.uid) : other.Names name := by
  unfold Names TaskRunPlan.nameWith at names ⊢
  rw [same, uid]
  exact names

/-- Genuine runs of one name are one run, as far as the names of task runs go. -/
theorem Genuine.names (genuine : run.Genuine uid) (genuine' : other.Genuine uid)
    (same : other.metadata.key = run.metadata.key) (names : run.Names name) : other.Names name := by
  refine names.congr (ObjectKey.mk.inj same).2 ?_
  rw [genuine.identified, genuine'.identified, same]

theorem Genuine.revise (genuine : run.Genuine uid) (key : other.metadata.key = run.metadata.key)
    (same : other.metadata.uid = run.metadata.uid)
    (recorded : ∀ name, other.status.taskRunName = some name → run.Names name) :
    other.Genuine uid where
  identified := by rw [same, key, genuine.identified]
  derives := by
    rw [Derives, same]
    exact genuine.derives
  recorded name named := (recorded name named).congr (ObjectKey.mk.inj key).2 same

/-- A task run belongs to a run by the name and the identifier of the run. -/
theorem Genuine.owns (genuine : run.Genuine uid) (genuine' : other.Genuine uid)
    (same : other.metadata.key = run.metadata.key) (owns : Cluster.Owns run taskRun) :
    Cluster.Owns other taskRun := by
  obtain ⟨ns, name⟩ := ObjectKey.mk.inj same
  have reference : TaskRunPlan.ownerReference other = TaskRunPlan.ownerReference run := by
    rw [TaskRunPlan.ownerReference, TaskRunPlan.ownerReference, genuine.identified,
      genuine'.identified, same, name]
  exact ⟨owns.ns.trans ns.symm, owns.owner.trans (congrArg (fun r => [r]) reference.symm),
    owns.label.trans (congrArg some name.symm)⟩

end BuildRun

namespace Cluster

variable {c d : Cluster} {subject : Subject} {request : Request}

/-- A task run is stored only by its creation. -/
theorem answer_taskRuns (c : Cluster) (request : Request) :
    (c.answer request).2.taskRuns = c.taskRuns ∨
      ∃ taskRun, request = .createTaskRun taskRun ∧ (c.answer request).2.taskRuns =
        c.taskRuns.insert taskRun.metadata.key taskRun := by
  cases request with
  | createTaskRun taskRun =>
    cases free : c.taskRuns.get? taskRun.metadata.key with
    | none =>
      rw [answer_createTaskRun_free free]
      exact .inr ⟨taskRun, rfl, rfl⟩
    | some taken =>
      rw [answer_createTaskRun_taken free]
      exact .inl rfl
  | updateBuildStatus | updateRun | updateRunStatus =>
    unfold answer
    rcases modify?_eq (c := c) with ⟨old, stored, changed⟩ | same
    · rw [changed]
      exact .inl rfl
    · rw [same]
      exact .inl rfl
  | _ => exact .inl rfl

theorem Unshared.tells {effect : Effect} {answer : effect.Answer} (unshared : c.Unshared uid)
    (met : Meets hazards c effect answer d) : (Reports.genuine uid).Covers effect answer :=
  met.tells (fun _ _ _ => trivial) unshared.runs fun _ _ _ _ => unshared.runs _ _

/-- A run that is stored under a key has the key for its name, and so a pass over it writes the run
that it was told of. -/
theorem Unshared.answer_runs (unshared : c.Unshared uid)
    (conducts : subject.Conducts settings (.genuine uid) (.send request))
    (stored : (c.answer request).2.runs.get? key = some run) : run.Genuine uid := by
  obtain same | ⟨written, old, rfl, found, changed⟩ | ⟨written, old, rfl, found, changed⟩ :=
    Cluster.answer_runs c request
  · rw [same] at stored
    exact unshared.runs key run stored
  · rw [changed, OrderedMap.get?_insert] at stored
    split at stored
    · cases stored
      -- The metadata is that of the listed run, and the status that of the stored one.
      obtain ⟨_, read, references, listed, rfl⟩ := conducts.of_updateRun
      have genuine := unshared.runs _ old found
      have same : read.metadata.key = old.metadata.key := (unshared.keyed _ old found).symm
      exact listed.revise rfl rfl fun name named =>
        genuine.names listed same (genuine.recorded name named)
    · exact unshared.runs key run stored
  · rw [changed, OrderedMap.get?_insert] at stored
    split at stored
    · cases stored
      -- Here it is the status that comes from the run that was read.
      obtain ⟨_, read, told, same, proposed⟩ := conducts.of_updateRunStatus
      have genuine := unshared.runs _ old found
      have key : old.metadata.key = read.metadata.key := by
        rw [unshared.keyed _ old found, same]
      refine genuine.revise rfl rfl fun name named => ?_
      obtain recorded | names := proposed name named
      · exact told.names genuine key (told.recorded name recorded)
      · exact told.names genuine key names
    · exact unshared.runs key run stored

theorem Unshared.answer (unshared : c.Unshared uid)
    (conducts : subject.Conducts settings (.genuine uid) (.send request)) :
    (c.answer request).2.Unshared uid where
  keyed := answer_keyed request unshared.keyed
  runs _ _ stored := unshared.answer_runs conducts stored
  taskRuns key taskRun stored := by
    obtain same | ⟨created, rfl, changed⟩ := answer_taskRuns c request
    · rw [same] at stored
      exact unshared.taskRuns key taskRun stored
    · rw [changed, OrderedMap.get?_insert] at stored
      split at stored
      · next here =>
        cases stored
        obtain ⟨_, run, name, build, strategy, genuine, names, rfl⟩ := conducts.of_createTaskRun
        subst here
        exact ⟨run, genuine, rfl, names, owns_plan settings name build run strategy⟩
      · exact unshared.taskRuns key taskRun stored

theorem Unshared.tends (unshared : c.Unshared uid) (tends : c.Tends uid d) : d.Unshared uid where
  keyed := tends.keyed unshared.keyed
  runs key run stored := by
    obtain ⟨identified, derives⟩ := tends.identified key run stored
    have own := tends.keyed unshared.keyed key run stored
    have same : run.metadata.uid = uid run.metadata.key := by rw [own, identified]
    refine ⟨same, derives, fun name named => ?_⟩
    have carried := tends.carries key run stored
    unfold Carries at carried
    split at carried
    · next old found =>
      rw [carried] at named
      have genuine := unshared.runs key old found
      refine (genuine.recorded name named).congr ?_ ?_
      · exact (ObjectKey.mk.inj (own.trans (unshared.keyed key old found).symm)).2
      · rw [same, genuine.identified, own, unshared.keyed key old found]
    · rw [carried] at named
      cases named
  taskRuns key taskRun stored := by
    obtain ⟨old, found, same⟩ := tends.taskRuns key taskRun stored
    obtain ⟨run, genuine, ns, names, owns⟩ := unshared.taskRuns key old found
    rw [same]
    exact ⟨run, genuine, ns, names, owns.ns, owns.owner, owns.label⟩

theorem Unshared.owns (unshared : c.Unshared uid) (stored : c.runs.get? key = some run)
    (recorded : run.status.taskRunName = some name)
    (found : c.taskRuns.get? ⟨key.ns, name⟩ = some taskRun) : Owns run taskRun := by
  obtain ⟨creator, genuine, ns, names, owns⟩ := unshared.taskRuns _ taskRun found
  have own := unshared.runs key run stored
  have same := names.owner genuine.derives own.derives (own.recorded name recorded)
  refine genuine.owns own ?_ owns
  rw [Metadata.key, Metadata.key, ← same, ns, ← unshared.keyed key run stored]
  rfl

theorem Unshared.distinct (unshared : c.Unshared uid) (stored : c.runs.get? key = some run)
    (stored' : c.runs.get? key' = some run') (ns : key'.ns = key.ns)
    (recorded : run.status.taskRunName = some name)
    (recorded' : run'.status.taskRunName = some name) : key' = key := by
  have own := unshared.runs key run stored
  have own' := unshared.runs key' run' stored'
  have same := (own.recorded name recorded).owner own.derives own'.derives
    (own'.recorded name recorded')
  obtain ⟨_, _⟩ := key
  obtain ⟨_, _⟩ := key'
  have first := ObjectKey.mk.inj (unshared.keyed _ run stored)
  have second := ObjectKey.mk.inj (unshared.keyed _ run' stored')
  rw [ObjectKey.mk.injEq]
  exact ⟨ns, second.2.symm.trans (same.symm.trans first.2)⟩

end Cluster

namespace System

variable {s t : System}

/-- Nothing is shared, and passes that are under way go on as they began. -/
structure Unshared (settings : Settings) (uid : ObjectKey → String) (s : System) : Prop where
  cluster : s.cluster.Unshared uid
  flights : ∀ flight ∈ s.flights, flight.rest.Given (Reports.genuine uid).Covers
    (flight.subject.Conducts settings (.genuine uid)) fun _ => True

theorem Unshared.next (unshared : s.Unshared settings uid)
    (step : StepAmong settings (Cluster.Tends uid) s t) : t.Unshared settings uid := by
  obtain ⟨cluster, flights⟩ := unshared
  cases step with
  | launch subject =>
    exact ⟨cluster, List.forall_mem_cons.mpr ⟨subject.given_pass settings _, flights⟩⟩
  | perform met =>
    simp only [List.forall_mem_append, List.forall_mem_cons] at flights
    obtain ⟨before, ⟨conducts, rest⟩, after⟩ := flights
    constructor
    · obtain rfl | ⟨request, rfl, rfl⟩ := met.effect
      · exact cluster
      · exact cluster.answer conducts
    · simp only [List.forall_mem_append, List.forall_mem_cons]
      exact ⟨before, rest _ (cluster.tells met), after⟩
  | leave =>
    simp only [List.forall_mem_append, List.forall_mem_cons] at flights
    exact ⟨cluster, List.forall_mem_append.mpr ⟨flights.1, flights.2.2⟩⟩
  | intervene tends => exact ⟨cluster.tends tends, flights⟩

/-- Task runs are not shared. Let there be none at first and no status of a run, let every name of a
run go with one identifier from which names can be derived, and let nobody create task runs but
passes. Then, whatever passes do and whatever fails, a task run that is recorded by a run belongs to
it, and no two runs of a namespace record the same name. -/
theorem taskRuns_unshared (keyed : s.cluster.Keyed)
    (identified : ∀ key run, s.cluster.runs.get? key = some run →
      run.metadata.uid = uid key ∧ run.Derives)
    (empty : ∀ key run, s.cluster.runs.get? key = some run → run.status = {})
    (unstarted : s.cluster.taskRuns = .empty) (idle : s.flights = [])
    (path : Relation.ReflTransGen (StepAmong settings (Cluster.Tends uid)) s t) :
    (∀ key run name taskRun, t.cluster.runs.get? key = some run →
      run.status.taskRunName = some name → t.cluster.taskRuns.get? ⟨key.ns, name⟩ = some taskRun →
      Cluster.Owns run taskRun) ∧
    ∀ key run key' run' name, t.cluster.runs.get? key = some run →
      t.cluster.runs.get? key' = some run' → key'.ns = key.ns →
      run.status.taskRunName = some name → run'.status.taskRunName = some name → key' = key := by
  have begun : s.Unshared settings uid := by
    refine ⟨⟨keyed, fun key run stored => ?_, fun key taskRun stored => ?_⟩, ?_⟩
    · obtain ⟨same, derives⟩ := identified key run stored
      refine ⟨by rw [keyed key run stored, same], derives, fun name named => ?_⟩
      rw [empty key run stored] at named
      cases named
    · rw [unstarted] at stored
      cases stored
    · rw [idle]
      exact fun _ impossible => nomatch impossible
  have reached : t.Unshared settings uid := by
    induction path with
    | refl => exact begun
    | tail _ last ih => exact ih.next last
  constructor
  · intro key run name taskRun stored recorded found
    exact reached.cluster.owns stored recorded found
  · intro key run key' run' name stored stored' ns recorded recorded'
    exact reached.cluster.distinct stored stored' ns recorded recorded'

/-- A whole pass, while others do nothing. -/
theorem among_of_pass {others : Cluster → Cluster → Prop} (subject : Subject)
    (ended : (subject.pass settings).Ends (Cluster.Meets .all) c r d) :
    Relation.ReflTransGen (StepAmong settings others) ⟨c, []⟩ ⟨d, []⟩ := by
  let place (c : Cluster) (rest : Pass Unit) : System := ⟨c, [] ++ ⟨subject, rest⟩ :: []⟩
  have flies : Relation.ReflTransGen (StepAmong settings others)
      (place c (subject.pass settings)) (place d (.done r)) := by
    apply ended.path place
    intro s effect resume answer t met
    exact .perform met
  have gone : StepAmong settings others ⟨d, [] ++ ⟨subject, .done r⟩ :: []⟩ ⟨d, [] ++ []⟩ := .leave
  exact .head (.launch subject) (flies.tail gone)

/-- The task run that a pass creates belongs to the run that records it. -/
theorem taskRuns_unshared_started :
    let run : BuildRun :=
      { metadata := { name := "run", uid := "0a1b2c" }, spec := { build := { name := "app" } } }
    let build : Build :=
      { metadata := { name := "app" }
        spec := { strategy := { name := "kaniko" }, output := { image := "registry/app" } }
        status := { registered := some .true } }
    let strategy : BuildStrategy := { metadata := { name := "kaniko" }, spec := {} }
    let c := (((Cluster.put {} (.build build)).put (.strategy strategy)).put (.run run))
    let taskRun := TaskRun.plan {} "run-0a1b2" build run strategy.spec
    let started : BuildRun := run.started default "run-0a1b2"
    let d := (c.withTaskRun taskRun).withRun started
    Relation.ReflTransGen (StepAmong {} (Cluster.Tends fun _ => "0a1b2c")) ⟨c, []⟩ ⟨d, []⟩ ∧
      d.taskRuns.get? ⟨"", "run-0a1b2"⟩ = some taskRun ∧ Cluster.Owns started taskRun := by
  intro run build strategy c taskRun started d
  have only (key : ObjectKey) (other : BuildRun) (found : c.runs.get? key = some other) :
      other = run := OrderedMap.eq_of_get?_insert_empty found
  have stored : c.runs.get? run.metadata.key = some run := OrderedMap.get?_insert_self _ _ _
  have admits : c.gate run = .admits (build, strategy) := by rfl
  have derives : run.Derives := by decide
  have suffix : TaskRunPlan.nameSuffix? run.metadata.uid = some "0a1b2" := by decide
  have names : run.Names "run-0a1b2" := BuildRun.Names.of_suffix suffix
  have prepares : c.Prepares {} run "run-0a1b2" (c.withTaskRun taskRun) :=
    ⟨rfl, build, strategy, admits, names, .created rfl names rfl⟩
  have path : Relation.ReflTransGen (StepAmong {} (Cluster.Tends fun _ => "0a1b2c"))
      ⟨c, []⟩ ⟨d, []⟩ :=
    among_of_pass (.run ⟨"", "run"⟩)
      (BuildRun.ends_advance_written stored rfl (.started prepares default))
  have created : d.taskRuns.get? ⟨"", "run-0a1b2"⟩ = some taskRun :=
    OrderedMap.get?_insert_self _ _ _
  have recorded : d.runs.get? ⟨"", "run"⟩ = some started := OrderedMap.get?_insert_self _ _ _
  have keyed : c.Keyed :=
    Cluster.keyed_put (Cluster.keyed_put (Cluster.keyed_put Cluster.keyed_empty _) _) _
  have identified (key : ObjectKey) (other : BuildRun) (found : c.runs.get? key = some other) :
      other.metadata.uid = "0a1b2c" ∧ other.Derives := by
    rw [only key other found]
    exact ⟨rfl, derives⟩
  have empty (key : ObjectKey) (other : BuildRun) (found : c.runs.get? key = some other) :
      other.status = {} := by
    rw [only key other found]
  have unshared := taskRuns_unshared keyed identified empty rfl rfl path
  exact ⟨path, created, unshared.1 _ _ _ _ recorded rfl created⟩

end System

end BuildController
