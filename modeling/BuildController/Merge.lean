import BuildController.Resource.Build

/-! Merging of named entries: each override replaces the first entry of its name, or is appended if
there is none. -/
namespace BuildController

/-- Replaces the first entry with the name of the given one, or appends it. -/
def upsert (nameOf : α → String) (entry : α) : List α → List α
  | [] => [entry]
  | old :: rest =>
    if nameOf old = nameOf entry then entry :: rest else old :: upsert nameOf entry rest

def merge (nameOf : α → String) (base overrides : List α) : List α :=
  overrides.foldl (fun merged entry => upsert nameOf entry merged) base

def mergeEnv (base overrides : List EnvVar) : List EnvVar := merge EnvVar.name base overrides

def mergeParamValues (base overrides : List ParamValue) : List ParamValue :=
  merge ParamValue.name base overrides

def ParamValue.find? (values : List ParamValue) (name : String) : Option String :=
  (values.find? fun p => p.name = name).map (·.value)

end BuildController
