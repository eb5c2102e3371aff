import BuildController.Text.Blank
import BuildController.Text.Numeral

/-! Settings of the controller: where the control plane is, which namespace is watched, how often
and with how many passes at once, and which images fetch the sources. Settings come from the
environment; a variable whose value is no number where one is needed counts as unset. -/
namespace BuildController

/-- A span of time in milliseconds. -/
structure Duration where
  milliseconds : Nat
  deriving DecidableEq, Repr

namespace Duration

def ofSeconds (n : Nat) : Duration := ⟨n * 1000⟩

def seconds (d : Duration) : Nat := d.milliseconds / 1000

end Duration

structure Settings where
  controlPlaneUrl : String := "http://localhost:8001"
  controlPlaneToken : Option String := none
  ns : String := "default"
  reconcileInterval : Duration := .ofSeconds 10
  maxParallelReconciles : Nat := 4
  gitContainerImage : String := "ghcr.io/kiln-build/git:latest"
  httpContainerImage : String := "docker.io/curlimages/curl:8.10.1"
  remoteRepositoryTimeout : Duration := .ofSeconds 5
  defaultBuildTimeout : Option Duration := none
  deriving DecidableEq

namespace Settings

inductive Problem
  | urlNotSet
  | urlEmpty
  | urlScheme
  | namespaceEmpty
  | intervalZero
  | parallelZero
  | imageEmpty
  deriving DecidableEq, Repr

def Problem.message : Problem → String
  | .urlNotSet => "CONTROL_PLANE_URL environment variable not set"
  | .urlEmpty => "control_plane_url cannot be empty"
  | .urlScheme => "control_plane_url must start with http:// or https://"
  | .namespaceEmpty => "namespace cannot be empty"
  | .intervalZero => "reconcile_interval must be greater than 0"
  | .parallelZero => "max_parallel_reconciles must be greater than 0"
  | .imageEmpty => "source step container images cannot be empty"

/-- The first problem with the settings. An interval of less than a second counts as zero. -/
def problem? (s : Settings) : Option Problem :=
  if s.controlPlaneUrl = "" then some .urlEmpty
  else if !(Text.beginsWith "http://" s.controlPlaneUrl
      || Text.beginsWith "https://" s.controlPlaneUrl) then some .urlScheme
  else if s.ns = "" then some .namespaceEmpty
  else if s.reconcileInterval.seconds = 0 then some .intervalZero
  else if s.maxParallelReconciles = 0 then some .parallelZero
  else if s.gitContainerImage = "" || s.httpContainerImage = "" then some .imageEmpty
  else none

def seconds? (value : Option String) : Option Duration :=
  (value.bind Text.uint64?).map fun n => .ofSeconds n.toNat

def ofEnvironment (lookup? : String → Option String) : Except Problem Settings :=
  match lookup? "CONTROL_PLANE_URL" with
  | none => .error .urlNotSet
  | some url =>
    let default : Settings := {}
    .ok {
      controlPlaneUrl := url
      controlPlaneToken := (lookup? "CONTROL_PLANE_TOKEN").filter fun token => token ≠ ""
      ns := (lookup? "WATCH_NAMESPACE").getD default.ns
      reconcileInterval :=
        (seconds? (lookup? "RECONCILE_INTERVAL")).getD default.reconcileInterval
      maxParallelReconciles :=
        (((lookup? "MAX_PARALLEL_RECONCILES").bind Text.uint64?).map UInt64.toNat).getD
          default.maxParallelReconciles
      gitContainerImage := (lookup? "GIT_CONTAINER_IMAGE").getD default.gitContainerImage
      httpContainerImage := (lookup? "HTTP_CONTAINER_IMAGE").getD default.httpContainerImage
      remoteRepositoryTimeout :=
        (seconds? (lookup? "REMOTE_REPOSITORY_TIMEOUT")).getD default.remoteRepositoryTimeout
      defaultBuildTimeout := seconds? (lookup? "DEFAULT_BUILD_TIMEOUT") }

end Settings

end BuildController
