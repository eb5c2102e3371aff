import BuildController.Pass.Advance
import BuildController.Pass.Register

/-! The control loop. A resync makes one pass over every build of the watched namespace and then one
over every run that is not done, so that runs see whether their builds are registered. How a pass
ends is no business of the resync: what was not done now is done by the next one. -/
namespace BuildController

/-- Why a resync ended early: resources could not be listed. -/
inductive ResyncError
  | builds (error : RequestError)
  | runs (error : RequestError)
  deriving DecidableEq, Repr

def ResyncError.message : ResyncError → String
  | builds error => "Failed to fetch builds: " ++ error.message
  | runs error => "Failed to fetch build runs: " ++ error.message

namespace Resync

def buildPasses (settings : Settings) (builds : List Build) : List (Pass Unit) :=
  builds.map fun build => Build.register settings.ns build.metadata.name

def runPasses (settings : Settings) (runs : List BuildRun) : List (Pass Unit) :=
  (runs.filter fun run => !run.status.isDone).map fun run =>
    BuildRun.advance settings settings.ns run.metadata.name

def runAll (machine : Machine σ) (passes : List (Pass Unit)) (state : σ) : σ :=
  passes.foldl (fun state pass => (pass.run machine state).2) state

end Resync

open Resync in
/-- One resync with its passes one after the other. Answers with their number. -/
def resync (machine : Machine σ) (settings : Settings) (state : σ) :
    Reply (Except ResyncError Nat) × σ :=
  match machine.perform (.send (.listBuilds settings.ns)) state with
  | (.hang, state) => (.hang, state)
  | (.crash, state) => (.crash, state)
  | (.answer (.error error), state) => (.answer (.error (.builds error)), state)
  | (.answer (.ok builds), state) =>
    let first := buildPasses settings builds
    match machine.perform (.send (.listRuns settings.ns)) (runAll machine first state) with
    | (.hang, state) => (.hang, state)
    | (.crash, state) => (.crash, state)
    | (.answer (.error error), state) => (.answer (.error (.runs error)), state)
    | (.answer (.ok runs), state) =>
      let second := runPasses settings runs
      (.answer (.ok (first.length + second.length)), runAll machine second state)

/-- The control loop: a resync per tick until it is cancelled, for as many ticks as there are. -/
def controlLoop (machine : Machine σ) (settings : Settings) : Nat → σ → σ
  | 0, state => state
  | ticks + 1, state =>
    match machine.perform .isCancelled state with
    | (.answer false, state) => controlLoop machine settings ticks (resync machine settings state).2
    | (_, state) => state

end BuildController
