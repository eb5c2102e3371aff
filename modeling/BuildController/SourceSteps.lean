import BuildController.Resource.Build
import BuildController.Resource.Task
import BuildController.Settings
import BuildController.Url.Parser

/-! Steps that fetch the sources of a build into one directory: the git source first, under the
name `default`, and then the auxiliary sources in their order. -/
namespace BuildController

namespace SourceSteps

def defaultName : String := "default"

/-- The parameter with the directory into which sources are fetched. -/
def rootParam : String := "kiln-source-root"

def stepName (source : String) : String := "source-" ++ source

/-- The name of the result with the fetched commit of a git source. -/
def commitResult (source : String) : String := "kiln-source-" ++ source ++ "-commit-sha"

/-- The directory under which clone credentials are mounted. -/
def secretMountRoot : String := "/workspace/kiln-source-secrets"

def secretVolume (secret : String) : String := "kiln-secret-" ++ secret

def revisionArgs (source : GitSource) : List String :=
  match source.revision with
  | some revision => if revision = "" then [] else ["--revision", revision]
  | none => []

def secretPath (name : String) : String := secretMountRoot ++ "/" ++ name

def gitStep (settings : Settings) (source : GitSource) (name : String) : Step :=
  { name := stepName name
    image := settings.gitContainerImage
    command := ["/usr/local/bin/kiln-git"]
    args :=
      ["--url", source.url, "--target", "$(params." ++ rootParam ++ ")",
        "--result-file-commit-sha", "$(results." ++ commitResult name ++ ".path)"]
      ++ revisionArgs source
      ++ (if source.cloneSecret.isSome then ["--secret-path", secretPath name] else [])
    volumeMounts :=
      match source.cloneSecret with
      | some secret =>
        [{ name := secretVolume secret, mountPath := secretPath name, readOnly := true }]
      | none => [] }

/-- Declares a volume with the given secret unless there is one of its name. -/
def addSecretVolume (secret : Option String) (volumes : List Volume) : List Volume :=
  match secret with
  | none => volumes
  | some secret =>
    if volumes.any fun v => v.name = secretVolume secret then volumes
    else volumes ++ [{ name := secretVolume secret, secretName := some secret }]

/-- Appends the step of a git source with its result and the volume of its credentials. -/
def addGit (settings : Settings) (source : GitSource) (name : String) (task : TaskSpec) : TaskSpec :=
  { task with
    results := task.results ++
      [{ name := commitResult name, description := "The commit SHA of the source " ++ name }]
    volumes := addSecretVolume source.cloneSecret task.volumes
    steps := task.steps ++ [gitStep settings source name] }

/-- The name of a downloaded file: the last segment of the path of the URL, or the name of the
source if that is empty. -/
def fileName (source : HttpSource) : String :=
  match (Url.ofText? source.url).bind Url.lastSegment? with
  | some segment => if segment = "" then source.name else segment
  | none => source.name

/-- The path, below the directory of the sources, to which a source is downloaded. -/
def outputPath (source : HttpSource) : String :=
  "$(params." ++ rootParam ++ ")/" ++ fileName source

def httpStep (settings : Settings) (source : HttpSource) : Step :=
  { name := stepName source.name
    image := settings.httpContainerImage
    command := ["curl"]
    args :=
      ["--fail", "--silent", "--retry", "3", "--location", "--output", outputPath source,
        source.url] }

end SourceSteps

open SourceSteps in
def TaskSpec.addSources (settings : Settings) (spec : BuildSpec) (task : TaskSpec) : TaskSpec :=
  let task := match spec.gitSource? with
    | some source => addGit settings source defaultName task
    | none => task
  { task with steps := task.steps ++ spec.sources.map (httpStep settings) }

end BuildController
