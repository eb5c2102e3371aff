import BuildController.Api.Http
import BuildController.Resource.BuildRun
import BuildController.Resource.Listing
import BuildController.Resource.Strategy
import BuildController.Resource.TaskRun

/-! The endpoints of the control plane: for each of them the address and content of its request and
what its response means. -/
namespace BuildController

/-- The root of the paths of builds, runs and strategies. -/
def buildApi : String := "apis/kiln.dev/v1"

/-- The root of the paths of task runs. -/
def pipelineApi : String := "apis/tekton.dev/v1"

/-- The root of the paths of secrets. -/
def coreApi : String := "api/v1"

inductive Endpoint
  | getBuild (ns name : String)
  | listBuilds (ns : String)
  | updateBuildStatus (build : Build)
  | getRun (ns name : String)
  | listRuns (ns : String) (selector : Option String)
  | updateRun (run : BuildRun)
  | updateRunStatus (run : BuildRun)
  | getSecret (ns name : String)
  | getStrategy (ns name : String)
  | getClusterStrategy (name : String)
  | getTaskRun (ns name : String)
  | createTaskRun (taskRun : TaskRun)

/-- What is read of a secret: its metadata and none of its data. -/
structure SecretHeader where
  metadata : Metadata

instance : Wire SecretHeader :=
  Fields.wire (.cons (.required "metadata") .nil) (fun s => (s.metadata, ()))
    (fun (metadata, ()) => { metadata })

namespace Endpoint

/-- The type of what a response means. -/
@[reducible] def Answer : Endpoint → Type
  | getBuild .. => Option Build
  | listBuilds _ => List Build
  | updateBuildStatus _ => Build
  | getRun .. => Option BuildRun
  | listRuns .. => List BuildRun
  | updateRun _ | updateRunStatus _ => BuildRun
  | getSecret .. => Option SecretHeader
  | getStrategy .. | getClusterStrategy _ => Option BuildStrategy
  | getTaskRun .. => Option TaskRun
  | createTaskRun _ => TaskRun

def method : Endpoint → HttpMethod
  | updateBuildStatus _ | updateRun _ | updateRunStatus _ => .put
  | createTaskRun _ => .post
  | _ => .get

def namespaced (api ns resource : String) : String :=
  "/" ++ api ++ "/namespaces/" ++ ns ++ "/" ++ resource

/-- The path of an endpoint, as it stands in an address before the address is parsed. -/
def path : Endpoint → String
  | getBuild ns name => namespaced buildApi ns ("builds/" ++ name)
  | listBuilds ns => namespaced buildApi ns "builds"
  | updateBuildStatus build =>
    namespaced buildApi build.metadata.namespaceName
      ("builds/" ++ build.metadata.name ++ "/status")
  | getRun ns name => namespaced buildApi ns ("buildruns/" ++ name)
  | listRuns ns _ => namespaced buildApi ns "buildruns"
  | updateRun run =>
    namespaced buildApi run.metadata.namespaceName ("buildruns/" ++ run.metadata.name)
  | updateRunStatus run =>
    namespaced buildApi run.metadata.namespaceName
      ("buildruns/" ++ run.metadata.name ++ "/status")
  | getSecret ns name => namespaced coreApi ns ("secrets/" ++ name)
  | getStrategy ns name => namespaced buildApi ns ("buildstrategies/" ++ name)
  | getClusterStrategy name => "/" ++ buildApi ++ "/clusterbuildstrategies/" ++ name
  | getTaskRun ns name => namespaced pipelineApi ns ("taskruns/" ++ name)
  | createTaskRun taskRun =>
    namespaced pipelineApi taskRun.metadata.namespaceName "taskruns"

def selector : Endpoint → Option String
  | listRuns _ selector => selector
  | _ => none

def body : Endpoint → Option Json
  | updateBuildStatus build => some (Wire.encode build)
  | updateRun run | updateRunStatus run => some (Wire.encode run)
  | createTaskRun taskRun => some (Wire.encode taskRun)
  | _ => none

/-- The meaning of a response that an object is expected from. -/
def object (α : Type) [Wire α] (path : String) (response : HttpResponse) :
    Except RequestError α :=
  if response.isSuccess then
    match Wire.ofText? α response.content with
    | some value => .ok value
    | none => .error (.undecodable undecodableMessage)
  else .error (response.error path)

/-- The meaning of a response when an object is looked up: that it is not there is an answer. -/
def lookup (α : Type) [Wire α] (path : String) (response : HttpResponse) :
    Except RequestError (Option α) :=
  match object α path response with
  | .ok value => .ok (some value)
  | .error error => if error.isNotFound then .ok none else .error error

/-- The meaning of a response with a list of objects. -/
def items (α : Type) [Wire α] (path : String) (response : HttpResponse) :
    Except RequestError (List α) :=
  (object (ObjectList α) path response).map ObjectList.items

/-- The meaning of the response to a request for the given path. -/
def answer (path : String) (response : HttpResponse) :
    (endpoint : Endpoint) → Except RequestError endpoint.Answer
  | getBuild .. => lookup Build path response
  | listBuilds _ => items Build path response
  | updateBuildStatus _ => object Build path response
  | getRun .. => lookup BuildRun path response
  | listRuns .. => items BuildRun path response
  | updateRun _ | updateRunStatus _ => object BuildRun path response
  | getSecret .. => lookup SecretHeader path response
  | getStrategy .. | getClusterStrategy _ => lookup BuildStrategy path response
  | getTaskRun .. => lookup TaskRun path response
  | createTaskRun _ => object TaskRun path response

end Endpoint

end BuildController
