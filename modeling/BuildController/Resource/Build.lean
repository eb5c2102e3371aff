import BuildController.Resource.Condition
import BuildController.Resource.Environment
import BuildController.Resource.Metadata
import BuildController.Resource.Reason

/-! Builds: templates that say where the source of an image comes from, which strategy turns it
into the image and where the image goes. -/
namespace BuildController

/-- The main source, fetched with git. -/
structure GitSource where
  url : String
  revision : Option String := none
  contextDir : Option String := none
  cloneSecret : Option String := none
  deriving DecidableEq

instance : Wire GitSource :=
  Fields.wire
    (.cons (.required "url") <| .cons (.optional "revision") <| .cons (.optional "contextDir") <|
      .cons (.optional "cloneSecret") .nil)
    (fun s => (s.url, s.revision, s.contextDir, s.cloneSecret, ()))
    (fun (url, revision, contextDir, cloneSecret, ()) => { url, revision, contextDir, cloneSecret })

/-- An auxiliary source, downloaded over HTTP. -/
structure HttpSource where
  name : String
  url : String
  deriving DecidableEq

instance : Wire HttpSource :=
  Fields.wire (.cons (.required "name") <| .cons (.required "url") .nil)
    (fun s => (s.name, s.url, ())) (fun (name, url, ()) => { name, url })

structure StrategyRef where
  name : String
  kind : Option String := none
  deriving DecidableEq

instance : Wire StrategyRef :=
  Fields.wire (.cons (.required "name") <| .cons (.optional "kind") .nil)
    (fun r => (r.name, r.kind, ())) (fun (name, kind, ()) => { name, kind })

/-- Whether a strategy belongs to a namespace or to the whole cluster. -/
inductive StrategyKind
  | namespaced
  | cluster
  deriving DecidableEq, Repr

def StrategyKind.text : StrategyKind → String
  | .namespaced => "BuildStrategy"
  | .cluster => "ClusterBuildStrategy"

/-- The kind that a reference means, namespaced if it gives none, or the text that is no kind. -/
def StrategyRef.resolvedKind (r : StrategyRef) : Except String StrategyKind :=
  match r.kind with
  | none => .ok .namespaced
  | some kind =>
    if kind = StrategyKind.namespaced.text then .ok .namespaced
    else if kind = StrategyKind.cluster.text then .ok .cluster
    else .error kind

structure ParamValue where
  name : String
  value : String
  deriving DecidableEq

instance : Wire ParamValue :=
  Fields.wire (.cons (.required "name") <| .cons (.required "value") .nil)
    (fun p => (p.name, p.value, ())) (fun (name, value, ()) => { name, value })

structure Image where
  image : String
  pushSecret : Option String := none
  timestamp : Option String := none
  deriving DecidableEq

instance : Wire Image :=
  Fields.wire
    (.cons (.required "image") <| .cons (.optional "pushSecret") <| .cons (.optional "timestamp") .nil)
    (fun i => (i.image, i.pushSecret, i.timestamp, ()))
    (fun (image, pushSecret, timestamp, ()) => { image, pushSecret, timestamp })

structure Toleration where
  key : String
  operator : Option String
  value : String
  effect : String
  deriving DecidableEq

instance : Wire Toleration :=
  Fields.wire
    (.cons (.withDefault "key" "") <| .cons (.optional "operator") <|
      .cons (.withDefault "value" "") <| .cons (.withDefault "effect" "") .nil)
    (fun t => (t.key, t.operator, t.value, t.effect, ()))
    (fun (key, operator, value, effect, ()) => { key, operator, value, effect })

/-- Whether runs of a build are deleted together with it. -/
structure Retention where
  atBuildDeletion : Option Bool
  deriving DecidableEq

instance : Wire Retention :=
  Fields.wire (.cons (.optional "atBuildDeletion") .nil)
    (fun r => (r.atBuildDeletion, ())) (fun (atBuildDeletion, ()) => { atBuildDeletion })

structure GithubEvents where
  events : List String
  branches : List String
  deriving DecidableEq

instance : Wire GithubEvents :=
  Fields.wire (.cons (.withDefault "events" []) <| .cons (.withDefault "branches" []) .nil)
    (fun w => (w.events, w.branches, ())) (fun (events, branches, ()) => { events, branches })

structure ImageNames where
  names : List String
  deriving DecidableEq

instance : Wire ImageNames :=
  Fields.wire (.cons (.withDefault "names" []) .nil) (fun w => (w.names, ()))
    (fun (names, ()) => { names })

/-- Objects whose status changes are waited for. -/
structure WatchedObjects where
  name : Option String
  status : List String
  selector : Labels
  deriving DecidableEq

instance : Wire WatchedObjects :=
  Fields.wire
    (.cons (.optional "name") <| .cons (.withDefault "status" []) <| .cons (.map "selector") .nil)
    (fun w => (w.name, w.status, w.selector, ()))
    (fun (name, status, selector, ()) => { name, status, selector })

/-- One event that triggers a build; its type says which of the other fields counts. -/
structure TriggerEvent where
  name : String
  type : String
  github : Option GithubEvents
  image : Option ImageNames
  objectRef : Option WatchedObjects
  deriving DecidableEq

instance : Wire TriggerEvent :=
  Fields.wire
    (.cons (.required "name") <| .cons (.required "type") <| .cons (.optional "github") <|
      .cons (.optional "image") <| .cons (.optional "objectRef") .nil)
    (fun w => (w.name, w.type, w.github, w.image, w.objectRef, ()))
    (fun (name, type, github, image, objectRef, ()) => { name, type, github, image, objectRef })

structure Trigger where
  events : List TriggerEvent
  secret : Option String
  deriving DecidableEq

instance : Wire Trigger :=
  Fields.wire (.cons (.withDefault "when" []) <| .cons (.optional "triggerSecret") .nil)
    (fun t => (t.events, t.secret, ())) (fun (events, secret, ()) => { events, secret })

/-- What a build is asked to be. The timeout is in seconds. -/
structure BuildSpec where
  source : Option GitSource := none
  sources : List HttpSource := []
  strategy : StrategyRef
  paramValues : List ParamValue := []
  output : Image
  env : List EnvVar := []
  timeout : Option UInt64 := none
  trigger : Option Trigger := none
  retention : Option Retention := none
  nodeSelector : Labels := .empty
  tolerations : List Toleration := []
  schedulerName : Option String := none
  deriving DecidableEq

instance : Wire BuildSpec :=
  Fields.wire
    (.cons (.optional "source") <| .cons (.list "sources") <| .cons (.required "strategy") <|
      .cons (.list "paramValues") <| .cons (.required "output") <| .cons (.list "env") <|
      .cons (.optional "timeout") <| .cons (.optional "trigger") <| .cons (.optional "retention") <|
      .cons (.map "nodeSelector") <| .cons (.list "tolerations") <|
      .cons (.optional "schedulerName") .nil)
    (fun s => (s.source, s.sources, s.strategy, s.paramValues, s.output, s.env, s.timeout,
      s.trigger, s.retention, s.nodeSelector, s.tolerations, s.schedulerName, ()))
    (fun (source, sources, strategy, paramValues, output, env, timeout, trigger, retention,
        nodeSelector, tolerations, schedulerName, ()) =>
      { source, sources, strategy, paramValues, output, env, timeout, trigger, retention,
        nodeSelector, tolerations, schedulerName })

/-- The git source, if its address is not empty. -/
def BuildSpec.gitSource? (s : BuildSpec) : Option GitSource := s.source.filter fun g => g.url ≠ ""

/-- What is known about a build: whether it is registered, and why. -/
structure BuildStatus where
  registered : Option ConditionStatus := none
  reason : Option BuildReason := none
  message : Option String := none
  deriving DecidableEq

instance : Wire BuildStatus :=
  Fields.wire
    (.cons (.optional "registered") <| .cons (.optional "reason") <| .cons (.optional "message") .nil)
    (fun s => (s.registered, s.reason, s.message, ()))
    (fun (registered, reason, message, ()) => { registered, reason, message })

structure Build where
  metadata : Metadata
  spec : BuildSpec
  status : BuildStatus := {}
  deriving DecidableEq

instance : Wire Build :=
  Fields.wire
    (.cons (.required "metadata") <| .cons (.required "spec") <| .cons (.withDefault "status" {}) .nil)
    (fun b => (b.metadata, b.spec, b.status, ()))
    (fun (metadata, spec, status, ()) => { metadata, spec, status })

def Build.kind : String := "Build"

/-- The annotation that asks for the repository of a build to be probed. -/
def Build.verifyAnnotation : String := "build.kiln.dev/verify.repository"

end BuildController
