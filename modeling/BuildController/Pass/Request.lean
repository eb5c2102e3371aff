import BuildController.ControlPlane.Error
import BuildController.Resource.BuildRun
import BuildController.Resource.Strategy
import BuildController.Resource.TaskRun
import BuildController.Url.Basic

/-! What a pass can ask for: requests to the control plane, each with the type of its answer, and
the few other things that a pass does not know by itself. -/
namespace BuildController

inductive Request
  | getBuild (ns name : String)
  | listBuilds (ns : String)
  | updateBuildStatus (build : Build)
  | getRun (ns name : String)
  | listRuns (ns : String)
  | listRunsOf (ns build : String)
  | updateRun (run : BuildRun)
  | updateRunStatus (run : BuildRun)
  | getStrategy (ns name : String)
  | getClusterStrategy (name : String)
  | secretExists (ns name : String)
  | getTaskRun (ns name : String)
  | createTaskRun (taskRun : TaskRun)

namespace Request

/-- The type of the answer. A lookup of a missing object is answered, with nothing. -/
@[reducible] def Answer : Request → Type
  | getBuild .. => Option Build
  | listBuilds .. => List Build
  | getRun .. => Option BuildRun
  | listRuns .. | listRunsOf .. => List BuildRun
  | getStrategy .. | getClusterStrategy .. => Option BuildStrategy
  | secretExists .. => Bool
  | getTaskRun .. => Option TaskRun
  | updateBuildStatus .. | updateRun .. | updateRunStatus .. | createTaskRun .. => Unit

end Request

/-- What a pass can do: send a request, probe whether a repository can be reached, read the clock,
draw a random suffix for a name, or see whether it has been cancelled. -/
inductive Effect
  | send (request : Request)
  | probe (url : Url)
  | clock
  | randomSuffix
  | isCancelled

/-- The type of the answer. Only requests can fail: a repository that cannot be probed is not
reachable. -/
@[reducible] def Effect.Answer : Effect → Type
  | send request => Except RequestError request.Answer
  | probe _ => Bool
  | clock => Instant
  | randomSuffix => String
  | isCancelled => Bool

end BuildController
