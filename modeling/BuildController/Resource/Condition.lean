import BuildController.Time.Text

/-! Status conditions: typed flags that say how far a resource has come. -/
namespace BuildController

inductive ConditionStatus
  | true
  | false
  | unknown
  deriving DecidableEq, Repr

namespace ConditionStatus

def text : ConditionStatus → String
  | .true => "True"
  | .false => "False"
  | .unknown => "Unknown"

def ofText? (s : String) : Option ConditionStatus :=
  [ConditionStatus.true, .false, .unknown].find? fun status => status.text = s

end ConditionStatus

instance : Wire ConditionStatus := Wire.named ConditionStatus.text ConditionStatus.ofText?

/-- A typed flag. The transition time is when status or reason last changed. -/
structure Condition where
  type : String
  status : ConditionStatus
  reason : String
  message : String
  lastTransitionTime : Option Instant
  deriving DecidableEq

instance : Wire Condition :=
  Fields.wire
    (.cons (.required "type") <| .cons (.required "status") <| .cons (.withDefault "reason" "") <|
      .cons (.withDefault "message" "") <| .cons (.optional "lastTransitionTime") .nil)
    (fun c => (c.type, c.status, c.reason, c.message, c.lastTransitionTime, ()))
    (fun (type, status, reason, message, lastTransitionTime, ()) =>
      { type, status, reason, message, lastTransitionTime })

namespace Condition

/-- The type of the condition that says whether a run completed. -/
def succeededType : String := "Succeeded"

/-- A `Succeeded` condition that changes now. -/
def succeeded (now : Instant) (status : ConditionStatus) (reason message : String) : Condition :=
  { type := succeededType, status, reason, message, lastTransitionTime := some now }

def agrees (c : Condition) (type : String) (status : ConditionStatus) (reason : String) : Bool :=
  c.type = type && c.status = status && c.reason = reason

def find? (conditions : List Condition) (type : String) : Option Condition :=
  conditions.find? fun c => c.type = type

/-- The condition with the transition time of the one it replaces, unless status or reason
changes. -/
def replacing (c old : Condition) : Condition :=
  if old.status = c.status ∧ old.reason = c.reason then
    { c with lastTransitionTime := old.lastTransitionTime }
  else c

/-- Replaces the first condition of the same type, or appends the condition. -/
def set (c : Condition) : List Condition → List Condition
  | [] => [c]
  | old :: rest => if old.type = c.type then c.replacing old :: rest else old :: c.set rest

end Condition

end BuildController
