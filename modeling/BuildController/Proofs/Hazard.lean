import BuildController.ControlPlane.Cluster
import BuildController.Proofs.Execution

/-! Hazards: what can come between a pass and its control plane. Requests can fail, some of them
although they took effect, and the pass can be cancelled. A pass that only reads ends in one way
unless a hazard ends it earlier, and either way it leaves the control plane as it was. -/
namespace BuildController

/-- What has to be reckoned with while a pass runs. -/
structure Hazards where
  /-- Requests can fail. -/
  failures : Prop
  /-- The requests that can have taken effect when they fail. -/
  losses : Request → Prop
  /-- The pass can be cancelled. -/
  cancellation : Prop

namespace Hazards

/-- No request fails and nothing is cancelled. -/
def calm : Hazards := ⟨False, fun _ => False, False⟩

/-- Any request can fail, and the creation of a task run can have taken effect when it does. -/
def unreliable : Hazards :=
  ⟨True, fun request => ∃ taskRun, request = .createTaskRun taskRun, False⟩

/-- Anything can happen. -/
def all : Hazards := ⟨True, fun _ => True, True⟩

/-- The error can stem from the hazards. -/
def Causes (hazards : Hazards) : PassError → Prop
  | .request _ => hazards.failures
  | .cancelled => hazards.cancellation
  | .notRegistered _ => False

@[simp] theorem not_calm_causes : ¬calm.Causes error := by
  cases error <;> exact id

end Hazards

namespace Cluster

/-- How a control plane under hazards meets the effects of a pass. Clock and random suffixes are
arbitrary, and the control plane tells the truth about what it can reach. -/
def Meets (hazards : Hazards) : Handling Cluster
  | before, .send request, answer, after =>
    (∃ value, before.answer request = (.ok value, after) ∧ answer = .ok value) ∨
      (hazards.failures ∧
        (after = before ∨ (hazards.losses request ∧ after = (before.answer request).2)) ∧
          ∃ error, answer = .error error)
  | before, .probe url, reachable, after => reachable = before.reaches url ∧ after = before
  | before, .clock, _, after | before, .randomSuffix, _, after => after = before
  | before, .isCancelled, cancelled, after =>
    (cancelled = true → hazards.cancellation) ∧ after = before

theorem commit_error {cluster after : Cluster} {changed : Except RequestError β}
    {put : β → Cluster} (failed : cluster.commit changed put = (.error error, after)) :
    after = cluster := by
  cases changed with
  | ok objects => cases failed
  | error cause =>
    cases failed
    rfl

theorem answer_error {cluster after : Cluster} {request : Request}
    (failed : cluster.answer request = (.error error, after)) : after = cluster := by
  cases request with
  | updateBuildStatus | updateRun | updateRunStatus | createTaskRun => exact commit_error failed
  | _ => cases failed

theorem meets_calm_send {c d : Cluster} {request : Request}
    {answer : (Effect.send request).Answer} :
    Meets .calm c (.send request) answer d ↔
      ∃ value, c.answer request = (.ok value, d) ∧ answer = .ok value := by
  constructor
  · rintro (answered | ⟨impossible, _⟩)
    · exact answered
    · exact impossible.elim
  · exact .inl

/-- A request that succeeds under hazards is answered by the control plane. -/
theorem Meets.answer_ok {c d : Cluster} {request : Request} {value : request.Answer}
    (met : Meets hazards c (.send request) (.ok value) d) : c.answer request = (.ok value, d) := by
  obtain ⟨_, answered, same⟩ | ⟨-, -, _, impossible⟩ := met
  · cases same
    exact answered
  · cases impossible

theorem Meets.answered {c d : Cluster} {request : Request} {value : request.Answer}
    (met : Meets hazards c (.send request) (.ok value) d) : (c.answer request).1 = .ok value := by
  rw [met.answer_ok]

/-- A change is committed if there is something to change. -/
theorem commit_modify?_ok {c d : Cluster} {objects : OrderedMap ObjectKey α} {key : ObjectKey}
    {change : α → α} {put : OrderedMap ObjectKey α → Cluster} :
    c.commit (modify? objects key change) put = (.ok (), d) ↔
      ∃ stored, objects.get? key = some stored ∧ d = put (objects.insert key (change stored)) := by
  unfold modify?
  cases stored : objects.get? key with
  | some old => simp [commit, eq_comm]
  | none => simp [commit]

end Cluster

namespace Pass

variable {c : Cluster} {pass : Pass α}

/-- The pass leaves the control plane as it is, and ends with the outcome unless a hazard ends it
with an error. -/
structure Reads (c : Cluster) (pass : Pass α) (result : Except PassError α) : Prop where
  ends : ∀ hazards, pass.Ends (Cluster.Meets hazards) c result c
  only : ∀ {hazards r after}, pass.Ends (Cluster.Meets hazards) c r after →
    after = c ∧ (r = result ∨ ∃ error, r = .error error ∧ hazards.Causes error)

theorem reads_pure : (pure a : Pass α).Reads c (.ok a) where
  ends _ := ⟨rfl, rfl⟩
  only ended := ⟨ended.2, .inl ended.1⟩

theorem reads_fail : (fail e : Pass α).Reads c (.error e) where
  ends _ := ⟨rfl, rfl⟩
  only ended := ⟨ended.2, .inl ended.1⟩

/-- A request is answered, or it fails with or without an effect. -/
theorem ends_request {request : Request} {r : Except PassError request.Answer} :
    (send request).Ends (Cluster.Meets hazards) c r after ↔
      (∃ value, c.answer request = (.ok value, after) ∧ r = .ok value) ∨
        (hazards.failures ∧
          (after = c ∨ (hazards.losses request ∧ after = (c.answer request).2)) ∧
            ∃ error, r = .error (.request error)) := by
  rw [ends_send]
  constructor
  · rintro (⟨value, handled, rfl⟩ | ⟨error, handled, rfl⟩)
    · rcases handled with ⟨_, answered, same⟩ | ⟨_, _, _, impossible⟩
      · cases same
        exact .inl ⟨value, answered, rfl⟩
      · cases impossible
    · rcases handled with ⟨_, _, impossible⟩ | ⟨fails, effect, _⟩
      · cases impossible
      · exact .inr ⟨fails, effect, error, rfl⟩
  · rintro (⟨value, answered, rfl⟩ | ⟨fails, effect, error, rfl⟩)
    · exact .inl ⟨value, .inl ⟨value, answered, rfl⟩, rfl⟩
    · exact .inr ⟨error, .inr ⟨fails, effect, error, rfl⟩, rfl⟩

theorem reads_send {request : Request} {value : request.Answer}
    (answered : c.answer request = (.ok value, c)) : (send request).Reads c (.ok value) where
  ends hazards := ends_request.mpr (.inl ⟨value, answered, rfl⟩)
  only ended := by
    rcases ends_request.mp ended with ⟨got, answer, rfl⟩ | ⟨fails, effect, error, rfl⟩
    · rw [answered] at answer
      cases answer
      exact ⟨rfl, .inl rfl⟩
    · have same : (c.answer request).2 = c := by rw [answered]
      rcases effect with unchanged | ⟨_, lost⟩
      · exact ⟨unchanged, .inr ⟨_, rfl, fails⟩⟩
      · exact ⟨lost.trans same, .inr ⟨_, rfl, fails⟩⟩

theorem reads_probe : (probe url).Reads c (.ok (c.reaches url)) where
  ends hazards := ends_probe.mpr ⟨_, ⟨rfl, rfl⟩, rfl⟩
  only ended := by
    obtain ⟨reachable, ⟨truth, same⟩, rfl⟩ := ends_probe.mp ended
    exact ⟨same, .inl (congrArg Except.ok truth)⟩

theorem reads_checkpoint : checkpoint.Reads c (.ok ()) where
  ends hazards := ends_checkpoint.mpr (.inl ⟨⟨nofun, rfl⟩, rfl⟩)
  only ended := by
    rcases ends_checkpoint.mp ended with ⟨⟨_, same⟩, rfl⟩ | ⟨⟨cancels, same⟩, rfl⟩
    · exact ⟨same, .inl rfl⟩
    · exact ⟨same, .inr ⟨_, rfl, cancels rfl⟩⟩

/-- Without hazards, a pass that reads ends in one way. -/
theorem Reads.calm_iff (reads : pass.Reads c result) :
    pass.Ends (Cluster.Meets .calm) c r after ↔ r = result ∧ after = c := by
  constructor
  · intro ended
    obtain ⟨same, rfl | ⟨_, _, caused⟩⟩ := reads.only ended
    · exact ⟨rfl, same⟩
    · exact (Hazards.not_calm_causes caused).elim
  · rintro ⟨rfl, rfl⟩
    exact reads.ends .calm

theorem Reads.ends_bind {next : α → Pass β} (first : pass.Reads c (.ok value))
    (rest : (next value).Ends (Cluster.Meets hazards) c r after) :
    (pass >>= next).Ends (Cluster.Meets hazards) c r after :=
  Pass.ends_bind.mpr (.inl ⟨value, c, first.ends hazards, rest⟩)

/-- After a pass that only reads, things go on from where they were, unless a hazard ends them. -/
theorem Reads.bind_only {next : α → Pass β} (first : pass.Reads c (.ok value))
    (ended : (pass >>= next).Ends (Cluster.Meets hazards) c r after) :
    (next value).Ends (Cluster.Meets hazards) c r after ∨
      ∃ error, r = .error error ∧ hazards.Causes error ∧ after = c := by
  rcases Pass.ends_bind.mp ended with ⟨got, middle, begun, continued⟩ | ⟨error, failed, rfl⟩
  · obtain ⟨rfl, same | ⟨_, impossible, _⟩⟩ := first.only begun
    · cases same
      exact .inl continued
    · cases impossible
  · obtain ⟨same, impossible | ⟨_, equal, caused⟩⟩ := first.only failed
    · cases impossible
    · cases equal
      exact .inr ⟨_, rfl, caused, same⟩

theorem Reads.bind {next : α → Pass β} (first : pass.Reads c (.ok value))
    (rest : (next value).Reads c result) : (pass >>= next).Reads c result where
  ends hazards := first.ends_bind (rest.ends hazards)
  only ended := by
    obtain continued | ⟨error, rfl, caused, same⟩ := first.bind_only ended
    · exact rest.only continued
    · exact ⟨same, .inr ⟨_, rfl, caused⟩⟩

theorem Reads.bind_error {next : α → Pass β} (first : pass.Reads c (.error error)) :
    (pass >>= next).Reads c (.error error) where
  ends hazards := Pass.ends_bind.mpr (.inr ⟨error, first.ends hazards, rfl⟩)
  only ended := by
    rcases Pass.ends_bind.mp ended with ⟨got, middle, begun, _⟩ | ⟨cause, failed, rfl⟩
    · obtain ⟨_, impossible | ⟨_, impossible, _⟩⟩ := first.only begun
      · cases impossible
      · cases impossible
    · obtain ⟨same, equal | ⟨_, equal, caused⟩⟩ := first.only failed
      · cases equal
        exact ⟨same, .inl rfl⟩
      · cases equal
        exact ⟨same, .inr ⟨_, rfl, caused⟩⟩

end Pass

end BuildController
