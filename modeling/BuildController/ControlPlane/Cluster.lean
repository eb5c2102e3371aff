import BuildController.Pass.Request

/-! The objects of a control plane, and how it answers requests. Objects are stored under namespace
and name. An update of a status leaves the rest of the stored object alone and an update of the
rest leaves the status alone, so that owners of different parts do not overwrite each other. -/
namespace BuildController

/-- The state of a control plane, with the repositories that can be reached from it. -/
structure Cluster where
  builds : OrderedMap ObjectKey Build := .empty
  runs : OrderedMap ObjectKey BuildRun := .empty
  strategies : OrderedMap ObjectKey BuildStrategy := .empty
  clusterStrategies : OrderedMap String BuildStrategy := .empty
  taskRuns : OrderedMap ObjectKey TaskRun := .empty
  secrets : OrderedMap ObjectKey Unit := .empty
  reachable : OrderedMap String Unit := .empty

namespace Cluster

/-- The values under keys of a namespace, by name. -/
def inNamespace (ns : String) (objects : OrderedMap ObjectKey α) : List α :=
  (objects.entries.filter fun entry => entry.1.ns = ns).map (·.2)

/-- Is the run labelled as one of the named build? -/
def isRunOf (build : String) (run : BuildRun) : Bool :=
  run.metadata.labels.get? buildLabel = some build

/-- Changes a stored value; fails if there is none. -/
def modify? (objects : OrderedMap ObjectKey α) (key : ObjectKey) (change : α → α) :
    Except RequestError (OrderedMap ObjectKey α) :=
  match objects.get? key with
  | some stored => .ok (objects.insert key (change stored))
  | none => .error (.notFound key.name)

/-- Takes over changed objects. -/
def commit (cluster : Cluster) (changed : Except RequestError β) (put : β → Cluster) :
    Except RequestError Unit × Cluster :=
  match changed with
  | .ok objects => (.ok (), put objects)
  | .error error => (.error error, cluster)

/-- Answers a request. A request that fails changes nothing. Objects are addressed by their exact
namespace and name; a request over HTTP does that for names that stand for themselves in a URL. -/
def answer (cluster : Cluster) :
    (request : Request) → Except RequestError request.Answer × Cluster
  | .getBuild ns name => (.ok (cluster.builds.get? ⟨ns, name⟩), cluster)
  | .listBuilds ns => (.ok (inNamespace ns cluster.builds), cluster)
  | .updateBuildStatus build =>
    cluster.commit
      (modify? cluster.builds build.metadata.key fun b => { b with status := build.status })
      fun builds => { cluster with builds }
  | .getRun ns name => (.ok (cluster.runs.get? ⟨ns, name⟩), cluster)
  | .listRuns ns => (.ok (inNamespace ns cluster.runs), cluster)
  | .listRunsOf ns build =>
    (.ok ((inNamespace ns cluster.runs).filter (isRunOf build)), cluster)
  | .updateRun run =>
    cluster.commit
      (modify? cluster.runs run.metadata.key fun r =>
        { r with metadata := run.metadata, spec := run.spec })
      fun runs => { cluster with runs }
  | .updateRunStatus run =>
    cluster.commit
      (modify? cluster.runs run.metadata.key fun r => { r with status := run.status })
      fun runs => { cluster with runs }
  | .getStrategy ns name => (.ok (cluster.strategies.get? ⟨ns, name⟩), cluster)
  | .getClusterStrategy name => (.ok (cluster.clusterStrategies.get? name), cluster)
  | .secretExists ns name => (.ok (cluster.secrets.contains ⟨ns, name⟩), cluster)
  | .getTaskRun ns name => (.ok (cluster.taskRuns.get? ⟨ns, name⟩), cluster)
  | .createTaskRun taskRun =>
    cluster.commit
      (if cluster.taskRuns.contains taskRun.metadata.key then
        .error (.conflict taskRun.metadata.name)
      else .ok (cluster.taskRuns.insert taskRun.metadata.key taskRun))
      fun taskRuns => { cluster with taskRuns }

def reaches (cluster : Cluster) (url : Url) : Bool := cluster.reachable.contains url.toText

/-- The engine reports the status of the task run of a run, if there is one. -/
def report (cluster : Cluster) (key : ObjectKey) (status : TaskRunStatus) : Option Cluster := do
  let run ← cluster.runs.get? key
  let taskRunName ← run.status.taskRunName
  let taskRun ← cluster.taskRuns.get? ⟨key.ns, taskRunName⟩
  return { cluster with
    taskRuns := cluster.taskRuns.insert ⟨key.ns, taskRunName⟩ { taskRun with status } }

/-- The kinds of objects that a control plane stores; a repository that can be reached counts as
one. -/
inductive Kind
  | build
  | run
  | strategy
  | clusterStrategy
  | taskRun
  | secret
  | reachable
  deriving DecidableEq, Repr

def erase (cluster : Cluster) (kind : Kind) (key : ObjectKey) : Cluster :=
  match kind with
  | .build => { cluster with builds := cluster.builds.erase key }
  | .run => { cluster with runs := cluster.runs.erase key }
  | .strategy => { cluster with strategies := cluster.strategies.erase key }
  | .clusterStrategy =>
    { cluster with clusterStrategies := cluster.clusterStrategies.erase key.name }
  | .taskRun => { cluster with taskRuns := cluster.taskRuns.erase key }
  | .secret => { cluster with secrets := cluster.secrets.erase key }
  | .reachable => { cluster with reachable := cluster.reachable.erase key.name }

def contains (cluster : Cluster) (kind : Kind) (key : ObjectKey) : Bool :=
  match kind with
  | .build => cluster.builds.contains key
  | .run => cluster.runs.contains key
  | .strategy => cluster.strategies.contains key
  | .clusterStrategy => cluster.clusterStrategies.contains key.name
  | .taskRun => cluster.taskRuns.contains key
  | .secret => cluster.secrets.contains key
  | .reachable => cluster.reachable.contains key.name

/-- An object of any kind. -/
inductive Object
  | build (build : Build)
  | run (run : BuildRun)
  | strategy (strategy : BuildStrategy)
  | clusterStrategy (strategy : BuildStrategy)
  | taskRun (taskRun : TaskRun)
  | secret (key : ObjectKey)
  | reachable (url : String)

/-- Stores an object under its own name, replacing one of that name. -/
def put (cluster : Cluster) : Object → Cluster
  | .build b => { cluster with builds := cluster.builds.insert b.metadata.key b }
  | .run r => { cluster with runs := cluster.runs.insert r.metadata.key r }
  | .strategy s => { cluster with strategies := cluster.strategies.insert s.metadata.key s }
  | .clusterStrategy s =>
    { cluster with clusterStrategies := cluster.clusterStrategies.insert s.metadata.name s }
  | .taskRun t => { cluster with taskRuns := cluster.taskRuns.insert t.metadata.key t }
  | .secret key => { cluster with secrets := cluster.secrets.insert key () }
  | .reachable url => { cluster with reachable := cluster.reachable.insert url () }

end Cluster

end BuildController
