import BuildController.Resource.Environment

/-! Tasks: ordered steps, with the parameters, volumes and results that they rely on. -/
namespace BuildController

structure VolumeMount where
  name : String
  mountPath : String
  readOnly : Bool := false
  deriving DecidableEq

instance : Wire VolumeMount :=
  Fields.wire
    (.cons (.required "name") <| .cons (.required "mountPath") <|
      .cons (.withDefault "readOnly" false) .nil)
    (fun m => (m.name, m.mountPath, m.readOnly, ()))
    (fun (name, mountPath, readOnly, ()) => { name, mountPath, readOnly })

/-- One container that runs to its end. -/
structure Step where
  name : String
  image : String
  command : List String := []
  args : List String := []
  env : List EnvVar := []
  workingDir : Option String := none
  volumeMounts : List VolumeMount := []
  deriving DecidableEq

instance : Wire Step :=
  Fields.wire
    (.cons (.required "name") <| .cons (.required "image") <| .cons (.list "command") <|
      .cons (.list "args") <| .cons (.list "env") <| .cons (.optional "workingDir") <|
      .cons (.list "volumeMounts") .nil)
    (fun s => (s.name, s.image, s.command, s.args, s.env, s.workingDir, s.volumeMounts, ()))
    (fun (name, image, command, args, env, workingDir, volumeMounts, ()) =>
      { name, image, command, args, env, workingDir, volumeMounts })

structure ParamSpec where
  name : String
  description : String
  default : Option String
  deriving DecidableEq

instance : Wire ParamSpec :=
  Fields.wire
    (.cons (.required "name") <| .cons (.withDefault "description" "") <|
      .cons (.optional "default") .nil)
    (fun p => (p.name, p.description, p.default, ()))
    (fun (name, description, default, ()) => { name, description, default })

structure TaskResult where
  name : String
  description : String
  deriving DecidableEq

instance : Wire TaskResult :=
  Fields.wire (.cons (.required "name") <| .cons (.withDefault "description" "") .nil)
    (fun r => (r.name, r.description, ())) (fun (name, description, ()) => { name, description })

structure Volume where
  name : String
  secretName : Option String
  deriving DecidableEq

instance : Wire Volume :=
  Fields.wire (.cons (.required "name") <| .cons (.optional "secretName") .nil)
    (fun v => (v.name, v.secretName, ())) (fun (name, secretName, ()) => { name, secretName })

structure TaskSpec where
  params : List ParamSpec := []
  steps : List Step := []
  volumes : List Volume := []
  results : List TaskResult := []
  deriving DecidableEq

instance : Wire TaskSpec :=
  Fields.wire
    (.cons (.list "params") <| .cons (.withDefault "steps" []) <| .cons (.list "volumes") <|
      .cons (.list "results") .nil)
    (fun t => (t.params, t.steps, t.volumes, t.results, ()))
    (fun (params, steps, volumes, results, ()) => { params, steps, volumes, results })

def TaskSpec.stepNames (t : TaskSpec) : List String := t.steps.map (·.name)

end BuildController
