import BuildController.Api.Endpoint
import BuildController.Pass.Request

/-! The client of a control plane. It turns the requests of passes into HTTP requests and responses
into answers; what carries HTTP is given to it as a function. -/
namespace BuildController

/-- A client: the URL of the control plane, and the token that it presents. -/
structure Client where
  baseUrl : String
  token : Option String := none

namespace Client

/-- The client of the control plane at a URL. Slashes at the end of the URL do not count. -/
def ofUrl (url : String) (token : Option String) : Client :=
  { baseUrl := Text.trimEnd '/' url, token }

def url? (client : Client) (endpoint : Endpoint) : Option Url :=
  (Url.ofText? (client.baseUrl ++ endpoint.path)).map fun url =>
    match endpoint.selector with
    | some selector => url.addPair "labelSelector" selector
    | none => url

/-- The HTTP request for an endpoint, if there is one: the names in it have to make up a URL that is
not too long, and the token has to fit into a header. -/
def httpRequest? (client : Client) (endpoint : Endpoint) : Option HttpRequest := do
  let url ← (client.url? endpoint).filter fun url => url.toText.length ≤ longestUrl
  let authorization ← match client.token with
    | some token => (bearer? token).map some
    | none => some none
  return { method := endpoint.method, url, authorization, body := endpoint.body }

/-- Sends a request to an endpoint. Redirects are left to the transport, so the response is the one
at the end of them. Without a request or a response the transport failed. -/
def call (client : Client) (exchange : HttpRequest → Option HttpResponse) (endpoint : Endpoint) :
    Except RequestError endpoint.Answer :=
  match client.httpRequest? endpoint with
  | none => .error .transport
  | some request =>
    match exchange request with
    | none => .error .transport
    | some response => endpoint.answer request.url.pathText response

end Client

namespace Request

def endpoint : Request → Endpoint
  | getBuild ns name => .getBuild ns name
  | listBuilds ns => .listBuilds ns
  | updateBuildStatus build => .updateBuildStatus build
  | getRun ns name => .getRun ns name
  | listRuns ns => .listRuns ns none
  | listRunsOf ns build => .listRuns ns (some (buildLabel ++ "=" ++ build))
  | updateRun run => .updateRun run
  | updateRunStatus run => .updateRunStatus run
  | getStrategy ns name => .getStrategy ns name
  | getClusterStrategy name => .getClusterStrategy name
  | secretExists ns name => .getSecret ns name
  | getTaskRun ns name => .getTaskRun ns name
  | createTaskRun taskRun => .createTaskRun taskRun

def ofEndpoint : (request : Request) → request.endpoint.Answer → request.Answer
  | getBuild .., found => found
  | listBuilds _, items => items
  | updateBuildStatus _, _ => ()
  | getRun .., found => found
  | listRuns _, items => items
  | listRunsOf .., items => items
  | updateRun _, _ => ()
  | updateRunStatus _, _ => ()
  | getStrategy .., found => found
  | getClusterStrategy _, found => found
  | secretExists .., found => found.isSome
  | getTaskRun .., found => found
  | createTaskRun _, _ => ()

end Request

def Client.send (client : Client) (exchange : HttpRequest → Option HttpResponse)
    (request : Request) : Except RequestError request.Answer :=
  (client.call exchange request.endpoint).map request.ofEndpoint

end BuildController
