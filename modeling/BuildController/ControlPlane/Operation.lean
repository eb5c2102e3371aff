import BuildController.Pass.Request

/-! The names of the requests to the control plane, by resource and verb. -/
namespace BuildController

inductive Operation
  | getBuild
  | listBuilds
  | updateBuildStatus
  | getRun
  | listRuns
  | listRunsOf
  | updateRun
  | updateRunStatus
  | getStrategy
  | getClusterStrategy
  | secretExists
  | getTaskRun
  | createTaskRun
  deriving DecidableEq, Repr

namespace Operation

def text : Operation → String
  | getBuild => "builds.get"
  | listBuilds => "builds.list"
  | updateBuildStatus => "builds.update_status"
  | getRun => "build_runs.get"
  | listRuns => "build_runs.list"
  | listRunsOf => "build_runs.list_for_build"
  | updateRun => "build_runs.update"
  | updateRunStatus => "build_runs.update_status"
  | getStrategy => "strategies.get_build_strategy"
  | getClusterStrategy => "strategies.get_cluster_build_strategy"
  | secretExists => "secrets.exists"
  | getTaskRun => "task_runs.get"
  | createTaskRun => "task_runs.create"

def all : List Operation :=
  [getBuild, listBuilds, updateBuildStatus, getRun, listRuns, listRunsOf, updateRun,
    updateRunStatus, getStrategy, getClusterStrategy, secretExists, getTaskRun, createTaskRun]

def ofText? (text : String) : Option Operation := all.find? fun o => o.text = text

end Operation

namespace Request

def operation : Request → Operation
  | getBuild .. => .getBuild
  | listBuilds .. => .listBuilds
  | updateBuildStatus .. => .updateBuildStatus
  | getRun .. => .getRun
  | listRuns .. => .listRuns
  | listRunsOf .. => .listRunsOf
  | updateRun .. => .updateRun
  | updateRunStatus .. => .updateRunStatus
  | getStrategy .. => .getStrategy
  | getClusterStrategy .. => .getClusterStrategy
  | secretExists .. => .secretExists
  | getTaskRun .. => .getTaskRun
  | createTaskRun .. => .createTaskRun

def address (m : Metadata) : List String := [m.namespaceName, m.name]

def subject : Request → List String
  | getBuild ns name | getRun ns name | getStrategy ns name | secretExists ns name
  | getTaskRun ns name => [ns, name]
  | listBuilds ns | listRuns ns => [ns]
  | listRunsOf ns build => [ns, build]
  | getClusterStrategy name => [name]
  | updateBuildStatus build => address build.metadata
  | updateRun run | updateRunStatus run => address run.metadata
  | createTaskRun taskRun => address taskRun.metadata

end Request

end BuildController
