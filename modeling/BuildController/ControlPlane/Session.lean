import BuildController.ControlPlane.Cluster
import BuildController.ControlPlane.Operation
import BuildController.Pass.Basic

/-! Sessions with a control plane in memory. A session records which calls were made and what they
wrote. Operations can be told to fail, and a session can be cancelled in the middle of a call. -/
namespace BuildController

/-- What is wrong with an operation: calls that are let through come first, and later ones fail,
with an error or in a crash. -/
structure Fault where
  skip : Nat
  error : Option RequestError

inductive Call
  | request (request : Request)
  | probe (url : Url)

/-- A change as it is recorded: the part of an object that was written. -/
inductive Write
  | buildStatus (status : BuildStatus)
  | runStatus (status : RunStatus)
  | runMetadata (metadata : Metadata)
  | taskRun (taskRun : TaskRun)

def Request.write? : Request → Option Write
  | .updateBuildStatus build => some (.buildStatus build.status)
  | .updateRunStatus run => some (.runStatus run.status)
  | .updateRun run => some (.runMetadata run.metadata)
  | .createTaskRun taskRun => some (.taskRun taskRun)
  | _ => none

/-- When a session is cancelled: in the call after the given number of calls, which is answered all
the same unless it hangs. -/
structure Cancellation where
  after : Nat
  hangs : Bool

structure Session where
  cluster : Cluster
  faults : List (Operation × Fault) := []
  cancellation : Option Cancellation := none
  cancelled : Bool := false
  calls : List Call := []
  writes : List Write := []
  suffixes : Nat := 0

namespace Session

/-- Records a call. Answers whether the call hangs. -/
def record (session : Session) (call : Call) : Bool × Session :=
  let session := { session with calls := session.calls ++ [call] }
  match session.cancellation with
  | none => (false, session)
  | some ⟨0, hangs⟩ => (hangs, { session with cancellation := none, cancelled := true })
  | some ⟨after + 1, hangs⟩ => (false, { session with cancellation := some ⟨after, hangs⟩ })

/-- Lets an operation fail, or work again. -/
def setFault (session : Session) (operation : Operation) (fault : Option Fault) : Session :=
  let others := session.faults.filter fun entry => entry.1 ≠ operation
  { session with faults := others ++ (fault.map fun f => (operation, f)).toList }

/-- The fault that a call of the operation meets. A call that is let through uses up one skip. -/
def meetFault (session : Session) (operation : Operation) : Option Fault × Session :=
  match session.faults.find? fun entry => entry.1 = operation with
  | none => (none, session)
  | some (_, ⟨0, error⟩) => (some ⟨0, error⟩, session)
  | some (_, ⟨skip + 1, error⟩) => (none, session.setFault operation (some ⟨skip, error⟩))

/-- Sends a request that meets no fault. -/
def deliver (session : Session) (request : Request) :
    Reply (Except RequestError request.Answer) × Session :=
  match session.cluster.answer request with
  | (.ok value, cluster) =>
    (.answer (.ok value),
      { session with cluster, writes := session.writes ++ request.write?.toList })
  | (.error error, cluster) => (.answer (.error error), { session with cluster })

def send (session : Session) (request : Request) :
    Reply (Except RequestError request.Answer) × Session :=
  match session.record (.request request) with
  | (true, session) => (.hang, session)
  | (false, session) =>
    match session.meetFault request.operation with
    | (none, session) => session.deliver request
    | (some ⟨_, some error⟩, session) => (.answer (.error error), session)
    | (some ⟨_, none⟩, session) => (.crash, session)

/-- Performs the effects of a pass, with a clock that stands still. -/
def machine (now : Instant) (suffix : Nat → String) : Machine Session where
  perform
    | .send request, session => session.send request
    | .probe url, session =>
      match session.record (.probe url) with
      | (true, session) => (.hang, session)
      | (false, session) => (.answer (session.cluster.reaches url), session)
    | .clock, session => (.answer now, session)
    | .randomSuffix, session =>
      (.answer (suffix session.suffixes), { session with suffixes := session.suffixes + 1 })
    | .isCancelled, session => (.answer session.cancelled, session)

/-- Begins an action with empty records, cancelled before it or in its `n`-th call. -/
def begin (session : Session) (cancelAfter : Option Nat) (hangs : Bool) : Session :=
  { session with
    calls := [], writes := [], cancelled := cancelAfter = some 0
    cancellation := match cancelAfter with
      | some (n + 1) => some ⟨n, hangs⟩
      | _ => none }

end Session

end BuildController
