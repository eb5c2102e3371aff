import BuildController.ControlPlane.Session
import BuildController.Proofs.Registration

/-! Control planes that are restricted to some of their namespaces. A request that stays in a
namespace is answered in the same way by the part of a control plane that keeps this namespace, and
the part that drops it is not changed. -/
namespace BuildController

namespace OrderedMap

variable {α : Type} (keep : String → Bool)

/-- The entries in the namespaces that are kept. -/
def restrict (m : OrderedMap ObjectKey α) : OrderedMap ObjectKey α :=
  ⟨m.entries.filter fun e => keep e.1.ns, m.sorted.filter _⟩

variable {keep} {m : OrderedMap ObjectKey α} {key : ObjectKey}

theorem get?_restrict (m : OrderedMap ObjectKey α) (key : ObjectKey) :
    (m.restrict keep).get? key = if keep key.ns then m.get? key else none := by
  refine Option.ext fun a => ?_
  rw [← mem_entries, restrict, List.mem_filter, mem_entries]
  split
  · next kept => simp [kept]
  · next dropped => simp [dropped]

theorem get?_restrict_kept (kept : keep key.ns = true) :
    (m.restrict keep).get? key = m.get? key := by
  rw [get?_restrict, if_pos kept]

theorem restrict_insert_kept (kept : keep key.ns = true) (a : α) :
    (m.insert key a).restrict keep = (m.restrict keep).insert key a := by
  refine ext_get? fun other => ?_
  rw [get?_restrict, get?_insert, get?_insert, get?_restrict]
  by_cases same : other = key
  · simp [same, kept]
  · simp [same]

theorem restrict_insert_dropped (dropped : keep key.ns = false) (a : α) :
    (m.insert key a).restrict keep = m.restrict keep := by
  refine ext_get? fun other => ?_
  rw [get?_restrict, get?_restrict, get?_insert]
  by_cases same : other = key
  · simp [same, dropped]
  · simp [same]

end OrderedMap

/-- The request asks for nothing outside the namespace. -/
def Request.Within (ns : String) : Request → Prop
  | .getBuild place _ | .listBuilds place | .getRun place _ | .listRuns place
  | .listRunsOf place _ | .getStrategy place _ | .secretExists place _
  | .getTaskRun place _ => place = ns
  | .updateBuildStatus build => build.metadata.namespaceName = ns
  | .updateRun run | .updateRunStatus run => run.metadata.namespaceName = ns
  | .createTaskRun taskRun => taskRun.metadata.namespaceName = ns
  | .getClusterStrategy _ => True

def Effect.Within (ns : String) : Effect → Prop
  | .send request => request.Within ns
  | _ => True

theorem Effect.LooksIn.within {effect : Effect} (looks : effect.LooksIn ns) : effect.Within ns := by
  cases effect with
  | send request => cases request <;> first | exact looks | cases looks
  | _ => trivial

namespace Cluster

variable {c d : Cluster} {keep : String → Bool} {ns : String}

/-- The control plane with the objects of some namespaces only. What belongs to no namespace stays.
-/
def restrict (keep : String → Bool) (c : Cluster) : Cluster :=
  { c with
    builds := c.builds.restrict keep
    runs := c.runs.restrict keep
    strategies := c.strategies.restrict keep
    taskRuns := c.taskRuns.restrict keep
    secrets := c.secrets.restrict keep }

theorem inNamespace_restrict (kept : keep ns = true) (objects : OrderedMap ObjectKey α) :
    inNamespace ns (objects.restrict keep) = inNamespace ns objects := by
  have same : (objects.restrict keep).entries.filter (fun e => e.1.ns = ns)
      = objects.entries.filter fun e => e.1.ns = ns := by
    rw [OrderedMap.restrict, List.filter_filter]
    refine List.filter_congr fun e _ => ?_
    by_cases here : e.1.ns = ns
    · simp [here, kept]
    · simp [here]
  rw [inNamespace, same, inNamespace]

/-- A change of a kept object is taken over by the part that keeps it. -/
theorem commit_restrict {objects : OrderedMap ObjectKey α} {key : ObjectKey} {change : α → α}
    {put put' : OrderedMap ObjectKey α → Cluster} (kept : keep key.ns = true)
    (same : ∀ objects, put' (objects.restrict keep) = (put objects).restrict keep) :
    (c.restrict keep).commit (modify? (objects.restrict keep) key change) put'
      = ((c.commit (modify? objects key change) put).1,
        (c.commit (modify? objects key change) put).2.restrict keep) := by
  unfold modify?
  rw [OrderedMap.get?_restrict_kept kept]
  cases objects.get? key with
  | none => rfl
  | some stored => simp only [commit, ← OrderedMap.restrict_insert_kept kept, same]

theorem commit_spares {objects : OrderedMap ObjectKey α} {key : ObjectKey} {change : α → α}
    {put : OrderedMap ObjectKey α → Cluster}
    (same : ∀ stored, (put (objects.insert key (change stored))).restrict keep = c.restrict keep) :
    (c.commit (modify? objects key change) put).2.restrict keep = c.restrict keep := by
  unfold modify?
  cases objects.get? key with
  | none => rfl
  | some stored => exact same stored

/-- The part of a control plane that keeps a namespace answers what is asked within it. -/
theorem answer_restrict {request : Request} (within : request.Within ns) (kept : keep ns = true) :
    (c.restrict keep).answer request
      = ((c.answer request).1, (c.answer request).2.restrict keep) := by
  cases request with
  | getBuild | getRun | getStrategy | getTaskRun =>
    cases within
    simp only [answer, restrict, OrderedMap.get?_restrict, kept, if_true]
  | secretExists =>
    cases within
    simp only [answer, restrict, OrderedMap.contains, OrderedMap.get?_restrict, kept, if_true]
  | listBuilds | listRuns | listRunsOf =>
    cases within
    simp only [answer, restrict, inNamespace_restrict kept]
  | getClusterStrategy => rfl
  | updateBuildStatus | updateRun | updateRunStatus =>
    cases within
    exact commit_restrict kept fun _ => rfl
  | createTaskRun taskRun =>
    cases within
    have here : keep taskRun.metadata.key.ns = true := kept
    have same : (c.restrict keep).taskRuns.get? taskRun.metadata.key
        = c.taskRuns.get? taskRun.metadata.key := OrderedMap.get?_restrict_kept kept
    cases free : c.taskRuns.get? taskRun.metadata.key with
    | none =>
      rw [answer_createTaskRun_free free, answer_createTaskRun_free (same.trans free)]
      simp only [withTaskRun, restrict, OrderedMap.restrict_insert_kept here]
    | some taken =>
      rw [answer_createTaskRun_taken free, answer_createTaskRun_taken (same.trans free)]

/-- The part of a control plane that drops a namespace is spared by what is asked within it. -/
theorem answer_spares {request : Request} (within : request.Within ns) (dropped : keep ns = false) :
    (c.answer request).2.restrict keep = c.restrict keep := by
  cases request with
  | updateBuildStatus build =>
    cases within
    have elsewhere : keep build.metadata.key.ns = false := dropped
    refine commit_spares fun stored => ?_
    simp only [restrict, OrderedMap.restrict_insert_dropped elsewhere]
  | updateRun run | updateRunStatus run =>
    cases within
    have elsewhere : keep run.metadata.key.ns = false := dropped
    refine commit_spares fun stored => ?_
    simp only [restrict, OrderedMap.restrict_insert_dropped elsewhere]
  | createTaskRun taskRun =>
    cases within
    have elsewhere : keep taskRun.metadata.key.ns = false := dropped
    cases free : c.taskRuns.get? taskRun.metadata.key with
    | none =>
      rw [answer_createTaskRun_free free]
      simp only [withTaskRun, restrict, OrderedMap.restrict_insert_dropped elsewhere]
    | some taken => rw [answer_createTaskRun_taken free]
  | _ => rfl

/-- Only the status of a build is ever written. -/
theorem answer_builds (c : Cluster) (request : Request) :
    (c.answer request).2.builds = c.builds ∨
      ∃ build old, request = .updateBuildStatus build ∧
        c.builds.get? build.metadata.key = some old ∧ (c.answer request).2.builds =
          c.builds.insert build.metadata.key { old with status := build.status } := by
  cases request with
  | updateBuildStatus build =>
    rcases modify?_eq (c := c) with ⟨old, stored, changed⟩ | same
    · exact .inr ⟨build, old, rfl, stored, congrArg builds changed⟩
    · exact .inl (congrArg builds same)
  | updateRun | updateRunStatus =>
    unfold answer
    rcases modify?_eq (c := c) with ⟨old, stored, changed⟩ | same
    · rw [changed]
      exact .inl rfl
    · rw [same]
      exact .inl rfl
  | createTaskRun taskRun =>
    simp only [answer]
    split <;> exact .inl rfl
  | _ => exact .inl rfl

theorem answer_filed (request : Request) (filed : c.Filed) : (c.answer request).2.Filed := by
  refine ⟨fun key build stored => ?_, answer_keyed request filed.runs⟩
  obtain same | ⟨written, old, -, found, changed⟩ := answer_builds c request
  · rw [same] at stored
    exact filed.builds key build stored
  · rw [changed, OrderedMap.get?_insert] at stored
    split at stored
    · next same =>
      cases stored
      exact (filed.builds _ old found).trans same.symm
    · exact filed.builds key build stored

end Cluster

end BuildController
