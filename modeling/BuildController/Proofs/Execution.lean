import Mathlib.Logic.Relation
import BuildController.Pass.Basic

/-! Executions of passes. A handling says which answers an effect can get and what becomes of the
state; a pass ends under it in every way that such answers allow. What holds whatever the answers
are is stated of the pass alone, without any state. -/
namespace BuildController

/-- How effects can go: a state, an effect, an answer to it and the state after it. -/
abbrev Handling (σ : Type) : Type := σ → (effect : Effect) → effect.Answer → σ → Prop

namespace Pass

/-- The ways in which the clock is read for a status; they differ in the order of the readings. -/
inductive ReadsClock : Pass Readings → Prop
  | atStart : ReadsClock readStart
  | atEnd : ReadsClock readEnd

/-- The pass can lead from one state to another and end with the outcome. -/
def Ends (handling : Handling σ) : Pass α → σ → Except PassError α → σ → Prop
  | done outcome, before, result, after => result = outcome ∧ after = before
  | perform effect resume, before, result, after =>
    ∃ answer middle, handling before effect answer middle ∧
      (resume answer).Ends handling middle result after

section Ends
variable {handling : Handling σ}

@[simp] theorem ends_pure : (pure a : Pass α).Ends handling s r t ↔ r = .ok a ∧ t = s := Iff.rfl

theorem ends_send : (send request).Ends handling s r t ↔
    (∃ value, handling s (.send request) (.ok value) t ∧ r = .ok value) ∨
      ∃ error, handling s (.send request) (.error error) t ∧ r = .error (.request error) := by
  constructor
  · rintro ⟨answer, middle, handled, ended⟩
    cases answer with
    | ok value =>
      obtain ⟨rfl, rfl⟩ := ended
      exact .inl ⟨value, handled, rfl⟩
    | error error =>
      obtain ⟨rfl, rfl⟩ := ended
      exact .inr ⟨error, handled, rfl⟩
  · rintro (⟨value, handled, rfl⟩ | ⟨error, handled, rfl⟩)
    · exact ⟨.ok value, t, handled, rfl, rfl⟩
    · exact ⟨.error error, t, handled, rfl, rfl⟩

/-- What holds of every effect that ends a pass with its answer. -/
theorem ends_ask {effect : Effect} {r : Except PassError effect.Answer} :
    (perform effect fun answer => done (Except.ok answer)).Ends handling s r t ↔
      ∃ answer, handling s effect answer t ∧ r = Except.ok answer := by
  constructor
  · rintro ⟨answer, middle, handled, rfl, rfl⟩
    exact ⟨answer, handled, rfl⟩
  · rintro ⟨answer, handled, rfl⟩
    exact ⟨answer, t, handled, rfl, rfl⟩

theorem ends_probe : (probe url).Ends handling s r t ↔
    ∃ reachable, handling s (.probe url) reachable t ∧ r = .ok reachable := ends_ask

theorem ends_checkpoint : checkpoint.Ends handling s r t ↔
    (handling s .isCancelled false t ∧ r = .ok ()) ∨
      (handling s .isCancelled true t ∧ r = .error .cancelled) := by
  constructor
  · rintro ⟨answer, middle, handled, ended⟩
    cases answer with
    | false =>
      obtain ⟨rfl, rfl⟩ := ended
      exact .inl ⟨handled, rfl⟩
    | true =>
      obtain ⟨rfl, rfl⟩ := ended
      exact .inr ⟨handled, rfl⟩
  · rintro (⟨handled, rfl⟩ | ⟨handled, rfl⟩)
    · exact ⟨false, t, handled, rfl, rfl⟩
    · exact ⟨true, t, handled, rfl, rfl⟩

/-- A pass goes on after a value, and after nothing else. -/
theorem ends_bind {pass : Pass α} {next : α → Pass β} :
    (pass >>= next).Ends handling s r t ↔
      (∃ value u, pass.Ends handling s (.ok value) u ∧ (next value).Ends handling u r t) ∨
        ∃ error, pass.Ends handling s (.error error) t ∧ r = .error error := by
  change (pass.bind next).Ends handling s r t ↔ _
  induction pass generalizing s with
  | done outcome =>
    cases outcome with
    | ok value =>
      constructor
      · intro rest
        exact .inl ⟨value, s, ⟨rfl, rfl⟩, rest⟩
      · rintro (⟨_, _, ⟨same, rfl⟩, rest⟩ | ⟨_, ⟨impossible, _⟩, _⟩)
        · cases same
          exact rest
        · cases impossible
    | error error =>
      constructor
      · rintro ⟨rfl, rfl⟩
        exact .inr ⟨error, ⟨rfl, rfl⟩, rfl⟩
      · rintro (⟨_, _, ⟨impossible, _⟩, _⟩ | ⟨_, ⟨same, rfl⟩, rfl⟩)
        · cases impossible
        · cases same
          exact ⟨rfl, rfl⟩
  | perform effect resume ih =>
    simp only [bind, Ends, ih]
    constructor
    · rintro ⟨answer, u, handled, ⟨value, v, first, rest⟩ | ⟨error, failed, rfl⟩⟩
      · exact .inl ⟨value, v, ⟨answer, u, handled, first⟩, rest⟩
      · exact .inr ⟨error, ⟨answer, u, handled, failed⟩, rfl⟩
    · rintro (⟨value, v, ⟨answer, u, handled, first⟩, rest⟩ |
        ⟨error, ⟨answer, u, handled, failed⟩, rfl⟩)
      · exact ⟨answer, u, handled, .inl ⟨value, v, first, rest⟩⟩
      · exact ⟨answer, u, handled, .inr ⟨error, failed, rfl⟩⟩

/-- A pass that succeeds has gone through all its parts. -/
theorem ends_bind_ok {pass : Pass α} {next : α → Pass β} :
    (pass >>= next).Ends handling s (.ok value) t ↔
      ∃ first u, pass.Ends handling s (.ok first) u ∧
        (next first).Ends handling u (.ok value) t := by
  rw [ends_bind]
  constructor
  · rintro (ended | ⟨error, -, impossible⟩)
    · exact ended
    · cases impossible
  · exact .inl

/-- What is handled in one way is handled so in every part of the state. -/
theorem Ends.part {view : Handling τ} {pass : Pass α} (part : σ → τ)
    (sees : ∀ s effect answer t, handling s effect answer t →
      view (part s) effect answer (part t))
    (ended : pass.Ends handling s r t) : pass.Ends view (part s) r (part t) := by
  induction pass generalizing s with
  | done outcome =>
    obtain ⟨rfl, rfl⟩ := ended
    exact ⟨rfl, rfl⟩
  | perform effect resume ih =>
    obtain ⟨answer, middle, handled, rest⟩ := ended
    exact ⟨answer, part middle, sees _ _ _ _ handled, ih answer rest⟩

/-- Where each effect of a pass is a step of something larger, the whole pass is a path of it. -/
theorem Ends.path {step : τ → τ → Prop} {pass : Pass α} (place : σ → Pass α → τ)
    (performs : ∀ s effect resume answer t, handling s effect answer t →
      step (place s (.perform effect resume)) (place t (resume answer)))
    (ended : pass.Ends handling s r t) :
    Relation.ReflTransGen step (place s pass) (place t (.done r)) := by
  induction pass generalizing s with
  | done outcome =>
    obtain ⟨rfl, rfl⟩ := ended
    exact .refl
  | perform effect resume ih =>
    obtain ⟨answer, middle, handled, rest⟩ := ended
    exact .head (performs _ _ _ _ _ handled) (ih answer rest)

end Ends

/-- Whatever the answers, the pass performs only effects that are allowed, and a value with which it
ends has the property. -/
def Keeps (allowed : Effect → Prop) (post : α → Prop) : Pass α → Prop
  | done (.ok value) => post value
  | done (.error _) => True
  | perform effect resume => allowed effect ∧ ∀ answer, (resume answer).Keeps allowed post

section Keeps
variable {allowed : Effect → Prop}

@[simp] theorem keeps_pure {post : α → Prop} : (pure a : Pass α).Keeps allowed post ↔ post a :=
  Iff.rfl

@[simp] theorem keeps_send {post : request.Answer → Prop} :
    (send request).Keeps allowed post ↔ allowed (.send request) ∧ ∀ value, post value := by
  refine and_congr_right fun _ => ⟨fun keeps value => keeps (.ok value), fun all answer => ?_⟩
  cases answer with
  | ok value => exact all value
  | error error => trivial

@[simp] theorem keeps_probe {post : Bool → Prop} :
    (probe url).Keeps allowed post ↔ allowed (.probe url) ∧ ∀ reachable, post reachable := Iff.rfl

@[simp] theorem keeps_randomSuffix {post : String → Prop} :
    randomSuffix.Keeps allowed post ↔ allowed .randomSuffix ∧ ∀ suffix, post suffix := Iff.rfl

@[simp] theorem keeps_checkpoint {post : Unit → Prop} :
    checkpoint.Keeps allowed post ↔ allowed .isCancelled ∧ post () := by
  refine and_congr_right fun _ => ⟨fun keeps => keeps false, fun holds cancelled => ?_⟩
  cases cancelled with
  | false => exact holds
  | true => trivial

@[simp] theorem keeps_bind {pass : Pass α} {next : α → Pass β} {post : β → Prop} :
    (pass >>= next).Keeps allowed post ↔
      pass.Keeps allowed fun value => (next value).Keeps allowed post := by
  change (pass.bind next).Keeps allowed post ↔ _
  induction pass with
  | done outcome => cases outcome <;> exact Iff.rfl
  | perform effect resume ih => exact and_congr_right fun _ => forall_congr' ih

theorem Keeps.mono {pass : Pass α} {post weaker : α → Prop} (keeps : pass.Keeps allowed post)
    (weakens : ∀ value, post value → weaker value) : pass.Keeps allowed weaker := by
  induction pass with
  | done outcome =>
    cases outcome with
    | ok value => exact weakens value keeps
    | error error => trivial
  | perform effect resume ih => exact ⟨keeps.1, fun answer => ih answer (keeps.2 answer)⟩

/-- Whatever the answers, the pass performs only effects that are allowed. -/
def Only (allowed : Effect → Prop) (pass : Pass α) : Prop := pass.Keeps allowed fun _ => True

theorem Only.keeps {pass : Pass α} {post : α → Prop} (only : pass.Only allowed)
    (all : ∀ value, post value) : pass.Keeps allowed post :=
  Keeps.mono only fun value _ => all value

theorem only_pure : (pure a : Pass α).Only allowed := keeps_pure.mpr trivial

theorem only_fail : (fail e : Pass α).Only allowed := trivial

theorem only_send {request : Request} (permitted : allowed (.send request)) :
    (send request).Only allowed := keeps_send.mpr ⟨permitted, fun _ => trivial⟩

theorem only_probe (permitted : allowed (.probe url)) : (probe url).Only allowed :=
  keeps_probe.mpr ⟨permitted, fun _ => trivial⟩

theorem ReadsClock.only {read : Pass Readings} (reads : read.ReadsClock)
    (permitted : allowed .clock) : read.Only allowed := by
  cases reads <;> exact ⟨permitted, fun _ => ⟨permitted, fun _ => trivial⟩⟩

theorem only_checkpoint (permitted : allowed .isCancelled) : checkpoint.Only allowed :=
  keeps_checkpoint.mpr ⟨permitted, trivial⟩

theorem only_randomSuffix (permitted : allowed .randomSuffix) : randomSuffix.Only allowed :=
  keeps_randomSuffix.mpr ⟨permitted, fun _ => trivial⟩

theorem Only.bind {pass : Pass α} {next : α → Pass β} (first : pass.Only allowed)
    (rest : ∀ value, (next value).Only allowed) : (pass >>= next).Only allowed :=
  keeps_bind.mpr (first.keeps rest)

theorem Only.mono {pass : Pass α} (only : pass.Only allowed)
    (permits : ∀ effect, allowed effect → wider effect) : pass.Only wider := by
  induction pass with
  | done outcome => cases outcome <;> trivial
  | perform effect resume ih =>
    exact ⟨permits effect only.1, fun answer => ih answer (only.2 answer)⟩

end Keeps

end Pass

end BuildController
