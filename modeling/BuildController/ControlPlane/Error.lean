/-! What can go wrong between the controller and the control plane. -/
namespace BuildController

inductive RequestError
  | transport
  | status (code : Nat) (message : String)
  | undecodable (message : String)
  | notFound (what : String)
  | conflict (message : String)
  deriving DecidableEq, Repr

namespace RequestError

def message : RequestError → String
  | .transport => "HTTP request failed"
  | .status code message => "API error (status " ++ toString code ++ "): " ++ message
  | .undecodable message => "Failed to parse response: " ++ message
  | .notFound what => "Object not found: " ++ what
  | .conflict message => "Conflict: " ++ message

def isNotFound : RequestError → Bool
  | .notFound _ => true
  | .status code _ => code = 404
  | _ => false

def isConflict : RequestError → Bool
  | .conflict _ => true
  | .status code _ => code = 409
  | _ => false

end RequestError

/-- Why a pass ended without a verdict. Such a pass has to be repeated. -/
inductive PassError
  | request (error : RequestError)
  | cancelled
  | notRegistered (build : String)
  deriving DecidableEq, Repr

def PassError.message : PassError → String
  | .request error => "control plane request failed: " ++ error.message
  | .cancelled => "reconciliation cancelled"
  | .notRegistered build => "build " ++ build ++ " has not been registered yet"

end BuildController
