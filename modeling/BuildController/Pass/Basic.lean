import BuildController.Pass.Request

/-! Passes. A pass is a program of effects: it performs one and goes on with the answer, or it is
done. Nothing is said here about who answers, so a pass can be run against a control plane in
memory or over HTTP, step by step beside others, or with faults at any place. -/
namespace BuildController

/-- A program that ends in a value or in an error. -/
inductive Pass (α : Type) : Type
  | done (outcome : Except PassError α)
  | perform (effect : Effect) (resume : effect.Answer → Pass α)

namespace Pass

/-- Goes on after a value; an error ends the program. -/
def bind : Pass α → (α → Pass β) → Pass β
  | done (.ok a), next => next a
  | done (.error e), _ => done (.error e)
  | perform effect resume, next => perform effect fun answer => (resume answer).bind next

instance : Monad Pass where
  pure a := done (.ok a)
  bind := bind

def fail (error : PassError) : Pass α := done (.error error)

/-- Sends a request. If it fails, so does the pass. -/
def send (request : Request) : Pass request.Answer :=
  perform (.send request) fun
    | .ok answer => done (.ok answer)
    | .error error => done (.error (.request error))

def probe (url : Url) : Pass Bool := perform (.probe url) fun reachable => done (.ok reachable)

def clock : Pass Instant := perform .clock fun now => done (.ok now)

/-- Reads the clock for a status: first for the start of the run, then for the condition. -/
def readStart : Pass Readings := do
  let time ← clock
  return { condition := ← clock, time }

/-- Reads the clock for a status: first for the condition, then for the completion of the run. -/
def readEnd : Pass Readings := do
  let condition ← clock
  return { condition, time := ← clock }

def randomSuffix : Pass String := perform .randomSuffix fun suffix => done (.ok suffix)

def checkpoint : Pass Unit :=
  perform .isCancelled fun cancelled => if cancelled then fail .cancelled else done (.ok ())

end Pass

/-- How an effect ends: with an answer, never, or in a crash. -/
inductive Reply (α : Type)
  | answer (value : α)
  | hang
  | crash

/-- How a pass ends: with its outcome, or in a crash. -/
inductive Ending (α : Type)
  | outcome (result : Except PassError α)
  | crash

/-- A machine that performs effects, changing its state. -/
structure Machine (σ : Type) where
  perform : (effect : Effect) → σ → Reply effect.Answer × σ

/-- Runs a pass to its end. One that waits for an answer that never comes ends when it is
cancelled. -/
def Pass.run (machine : Machine σ) : Pass α → σ → Ending α × σ
  | done outcome, state => (.outcome outcome, state)
  | perform effect resume, state =>
    match machine.perform effect state with
    | (.answer value, state) => (resume value).run machine state
    | (.hang, state) => (.outcome (.error .cancelled), state)
    | (.crash, state) => (.crash, state)

end BuildController
