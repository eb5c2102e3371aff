import BuildController.Concern.Basic

/-! The pass over a build: its concerns are checked, and its status says whether it is registered,
that is whether runs may use it. -/
namespace BuildController

namespace BuildStatus

def registeredMessage : String := "all validations succeeded"

def accepted : BuildStatus :=
  { registered := some .true, reason := some .succeeded, message := some registeredMessage }

def rejected (violation : Violation) : BuildStatus :=
  { registered := some .false, reason := some violation.reason, message := some violation.message }

def ofViolation : Option Violation → BuildStatus
  | none => accepted
  | some violation => rejected violation

end BuildStatus

/-- One pass over the named build. A build that no longer exists is left alone. -/
def Build.register (ns name : String) : Pass Unit := do
  match ← Pass.send (.getBuild ns name) with
  | none => return ()
  | some build =>
    let violation? ← Concern.firstViolation? build Concern.ofBuild
    Pass.send (.updateBuildStatus { build with status := .ofViolation violation? })

end BuildController
