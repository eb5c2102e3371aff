import BuildController.Proofs.Advance
import BuildController.Proofs.Registration

/-! What passes leave behind that end with an error. A pass over a build may have adjusted the
owners of some runs by then, and one over a run may have created its task run. That is all, and all
of it can happen. -/
namespace BuildController

/-- Any request can fail, and one that fails has no effect. Whether the pass can be cancelled is
open. -/
def Hazards.failing (cancellation : Prop) : Hazards := ⟨True, fun _ => False, cancellation⟩

variable {hazards : Hazards} {c d u v : Cluster} {build : Build} {retain : Bool} {run : BuildRun}
  {runs : List BuildRun}

theorem OrderedMap.insert_eq_self {κ α : Type} [LT κ] [DecidableEq κ] [DecidableLT κ] [KeyOrder κ]
    {m : OrderedMap κ α} {k : κ} {a : α} (bound : m.get? k = some a) : m.insert k a = m := by
  refine ext_get? fun other => ?_
  rw [get?_insert]
  split
  · next same => rw [same, bound]
  · rfl

namespace Cluster

/-- The control plane with other runs under their names. -/
def withRuns (c : Cluster) (runs : List BuildRun) : Cluster := runs.foldl withRun c

/-- How a pass over a stored build can end, and the control plane that it leaves behind. -/
inductive Enrolls (hazards : Hazards) (c : Cluster) (build : Build) :
    Except PassError Unit → Cluster → Prop
  | written : Enrolls hazards c build (.ok ())
      ((c.withRuns (build.settle (c.runsOf build))).withBuild
        { build with status := .ofViolation (c.violation? build) })
  | aborted (caused : hazards.Causes error) (n : Nat) : Enrolls hazards c build (.error error)
      (c.withRuns ((build.settle (c.runsOf build)).take n))
  | lost (caused : hazards.Causes error)
      (loses : hazards.losses (.updateBuildStatus
        { build with status := .ofViolation (c.violation? build) })) :
      Enrolls hazards c build (.error error) ((c.withRuns (build.settle (c.runsOf build))).withBuild
        { build with status := .ofViolation (c.violation? build) })

/-- Without hazards, a pass over a stored build checks it. -/
theorem Enrolls.of_calm (enrolls : c.Enrolls .calm build r d) :
    r = .ok () ∧ d = (c.withRuns (build.settle (c.runsOf build))).withBuild
      { build with status := .ofViolation (c.violation? build) } := by
  cases enrolls with
  | written => exact ⟨rfl, rfl⟩
  | aborted caused | lost caused => exact (Hazards.not_calm_causes caused).elim

theorem withRuns_cons : c.withRuns (run :: runs) = (c.withRun run).withRuns runs := rfl

theorem withRun_eq_self (stored : c.runs.get? run.metadata.key = some run) : c.withRun run = c := by
  rw [withRun, OrderedMap.insert_eq_self stored]

theorem withRuns_eq_self (stored : ∀ run ∈ runs, c.runs.get? run.metadata.key = some run) :
    c.withRuns runs = c := by
  induction runs with
  | nil => rfl
  | cons run rest ih =>
    obtain ⟨first, later⟩ := List.forall_mem_cons.mp stored
    rw [withRuns_cons, withRun_eq_self first]
    exact ih later

theorem withRuns_same (c : Cluster) (runs : List BuildRun) :
    c.withRuns runs = { c with runs := (c.withRuns runs).runs } := by
  induction runs generalizing c with
  | nil => rfl
  | cons run rest ih => exact ih (c.withRun run)

theorem withRuns_shares (c : Cluster) (runs : List BuildRun) : c.Shares (c.withRuns runs) := by
  rw [Shares, withRuns_same]

theorem withRuns_builds (c : Cluster) (runs : List BuildRun) :
    (c.withRuns runs).builds = c.builds := by
  rw [withRuns_same]

/-- The owners of a stored run can be replaced. -/
theorem answer_updateRun (stored : c.runs.get? run.metadata.key = some run) :
    c.answer (.updateRun (run.withOwners references)) =
      (.ok (), c.withRun (run.withOwners references)) :=
  (Reviewed.refl c).answer_updateRun stored

/-- So can the status of a stored build. -/
theorem answer_updateBuildStatus (status : BuildStatus)
    (stored : c.builds.get? build.metadata.key = some build) :
    c.answer (.updateBuildStatus { build with status }) =
      (.ok (), c.withBuild { build with status }) :=
  (Reviewed.refl c).answer_updateBuildStatus stored

/-- A write to the first run leaves the later ones as they were. -/
theorem later_stored (below : ∀ other ∈ runs, run.metadata.key < other.metadata.key)
    (stored : ∀ other ∈ runs, u.runs.get? other.metadata.key = some other) :
    ∀ other ∈ runs, (u.withRun (run.withOwners references)).runs.get? other.metadata.key =
      some other := by
  intro other member
  refine (OrderedMap.get?_insert_of_ne _ _ ?_).trans (stored other member)
  intro same
  exact KeyOrder.irrefl _ (same ▸ below other member)

end Cluster

open Pass Cluster

/-- Runs are adjusted one after the other, so a pass that ends here has adjusted the first ones. -/
theorem adjustRuns_only (sorted : runs.Pairwise fun r s => r.metadata.key < s.metadata.key)
    (stored : ∀ run ∈ runs, u.runs.get? run.metadata.key = some run)
    (ended : (adjustRuns build retain runs).Ends (Meets hazards) u r v) :
    (r = .ok ((runs.map (·.metadata)).findSome? (build.blocker? retain)) ∧
      v = u.withRuns (build.adjusted retain runs)) ∨
      ∃ error n, r = .error error ∧ hazards.Causes error ∧
        v = u.withRuns ((build.adjusted retain runs).take n) := by
  induction runs generalizing u with
  | nil =>
    obtain ⟨rfl, rfl⟩ := ends_pure.mp ended
    exact .inl ⟨rfl, rfl⟩
  | cons run rest ih =>
    obtain ⟨below, sorted⟩ := List.pairwise_cons.mp sorted
    obtain ⟨present, stored⟩ := List.forall_mem_cons.mp stored
    unfold adjustRuns at ended
    cases found : adjustment build retain run.metadata.ownerReferences with
    | keep =>
      -- Writing the stored run changes nothing, so this run counts as adjusted.
      rw [found] at ended
      obtain ⟨rfl, rfl⟩ | ⟨error, n, rfl, caused, rfl⟩ := ih sorted stored ended
      · refine .inl ⟨?_, ?_⟩
        · simp [Build.blocker?, found]
        · simp only [Build.adjusted, found, withRuns_cons, withRun_eq_self present]
      · refine .inr ⟨error, n + 1, rfl, caused, ?_⟩
        simp only [Build.adjusted, found, List.take_succ_cons, withRuns_cons,
          withRun_eq_self present]
    | blocked controller =>
      rw [found] at ended
      obtain ⟨rfl, rfl⟩ := ends_pure.mp ended
      refine .inl ⟨?_, ?_⟩
      · simp [Build.blocker?, found]
      · simp only [Build.adjusted, found]
        exact (withRuns_eq_self (List.forall_mem_cons.mpr ⟨present, stored⟩)).symm
    | replace references =>
      rw [found] at ended
      have answered : u.answer (.updateRun (run.withOwners references)) = _ :=
        answer_updateRun present
      have adjusted : build.adjusted retain (run :: rest) =
          run.withOwners references :: build.adjusted retain rest := by
        simp only [Build.adjusted, found]
      rw [adjusted]
      rcases ends_bind.mp ended with ⟨_, middle, sent, rest⟩ | ⟨error, failed, rfl⟩
      · obtain ⟨_, answer, -⟩ | ⟨-, -, _, impossible⟩ := ends_request.mp sent
        · rw [answered] at answer
          cases answer
          obtain ⟨rfl, rfl⟩ | ⟨error, n, rfl, caused, rfl⟩ :=
            ih sorted (later_stored below stored) rest
          · refine .inl ⟨?_, rfl⟩
            simp [Build.blocker?, found]
          · exact .inr ⟨error, n + 1, rfl, caused, rfl⟩
        · cases impossible
      · obtain ⟨_, -, impossible⟩ | ⟨fails, effect, cause, same⟩ := ends_request.mp failed
        · cases impossible
        · -- The write was not made, or it was made and only its answer was lost.
          cases same
          rw [answered] at effect
          rcases effect with rfl | ⟨-, rfl⟩
          · exact .inr ⟨_, 0, rfl, fails, rfl⟩
          · exact .inr ⟨_, 1, rfl, fails, rfl⟩

theorem ends_adjustRuns (sorted : runs.Pairwise fun r s => r.metadata.key < s.metadata.key)
    (stored : ∀ run ∈ runs, u.runs.get? run.metadata.key = some run) :
    (adjustRuns build retain runs).Ends (Meets hazards) u
      (.ok ((runs.map (·.metadata)).findSome? (build.blocker? retain)))
      (u.withRuns (build.adjusted retain runs)) := by
  induction runs generalizing u with
  | nil => exact ends_pure.mpr ⟨rfl, rfl⟩
  | cons run rest ih =>
    obtain ⟨below, sorted⟩ := List.pairwise_cons.mp sorted
    obtain ⟨present, later⟩ := List.forall_mem_cons.mp stored
    unfold adjustRuns
    cases found : adjustment build retain run.metadata.ownerReferences with
    | keep =>
      simpa only [Build.adjusted, found, withRuns_cons, withRun_eq_self present, Build.blocker?,
        List.map_cons, List.findSome?_cons] using ih sorted later
    | blocked controller =>
      simp only [Build.adjusted, found, withRuns_eq_self stored]
      exact ends_pure.mpr ⟨by simp [Build.blocker?, found], rfl⟩
    | replace references =>
      have left : ∀ other ∈ rest, (u.withRun (run.withOwners references)).runs.get?
          other.metadata.key = some other := later_stored below later
      refine ends_bind.mpr (.inl ⟨(), u.withRun (run.withOwners references), ?_, ?_⟩)
      · exact ends_request.mpr (.inl ⟨(), answer_updateRun present, rfl⟩)
      · simpa only [Build.adjusted, found, withRuns_cons, Build.blocker?, List.map_cons,
          List.findSome?_cons] using ih sorted left

/-- A pass can be cut off after any number of runs, unless the others need no adjustment. -/
theorem ends_adjustRuns_cut (fails : hazards.failures) (error : RequestError) (n : Nat)
    (sorted : runs.Pairwise fun r s => r.metadata.key < s.metadata.key)
    (stored : ∀ run ∈ runs, u.runs.get? run.metadata.key = some run) :
    (adjustRuns build retain runs).Ends (Meets hazards) u (.error (.request error))
      (u.withRuns ((build.adjusted retain runs).take n)) ∨
      u.withRuns ((build.adjusted retain runs).take n) =
        u.withRuns (build.adjusted retain runs) := by
  induction runs generalizing u n with
  | nil => exact .inr (by rw [Build.adjusted, List.take_nil])
  | cons run rest ih =>
    obtain ⟨below, sorted⟩ := List.pairwise_cons.mp sorted
    obtain ⟨present, later⟩ := List.forall_mem_cons.mp stored
    unfold adjustRuns
    cases found : adjustment build retain run.metadata.ownerReferences with
    | keep =>
      cases n with
      | zero =>
        simpa only [Build.adjusted, found, withRuns_cons, withRun_eq_self present,
          List.take_zero] using ih 0 sorted later
      | succ n =>
        simpa only [Build.adjusted, found, withRuns_cons, withRun_eq_self present,
          List.take_succ_cons] using ih n sorted later
    | blocked controller =>
      -- The adjustment ends without a request, so nothing can fail here.
      simp only [Build.adjusted, found]
      rw [withRuns_eq_self stored, withRuns_eq_self fun run member =>
        stored run (List.mem_of_mem_take member)]
      exact .inr rfl
    | replace references =>
      cases n with
      | zero =>
        refine .inl (ends_bind.mpr (.inr ⟨_, ?_, rfl⟩))
        exact ends_request.mpr (.inr ⟨fails, .inl rfl, error, rfl⟩)
      | succ n =>
        simp only [Build.adjusted, found, withRuns_cons, List.take_succ_cons]
        refine (ih n sorted (later_stored below later)).imp_left
          fun cut => ?_
        refine ends_bind.mpr (.inl ⟨(), _, ?_, cut⟩)
        exact ends_request.mpr (.inl ⟨(), answer_updateRun present, rfl⟩)

namespace Cluster

theorem Filed.runsOf_stored (filed : c.Filed) (build : Build) :
    ∀ run ∈ c.runsOf build, c.runs.get? run.metadata.key = some run :=
  fun _ member => (filed.keeper_eq member).1

end Cluster

namespace Build

theorem ownershipViolation?_only (filed : c.Filed)
    (ended : (ownershipViolation? build).Ends (Meets hazards) c r d) :
    (r = .ok (c.ownershipVerdict build) ∧ d = c.withRuns (build.settle (c.runsOf build))) ∨
      ∃ error n, r = .error error ∧ hazards.Causes error ∧
        d = c.withRuns ((build.settle (c.runsOf build)).take n) := by
  unfold ownershipViolation? at ended
  rw [ownershipVerdict_eq]
  unfold settle
  cases retained : build.spec.retention.bind (·.atBuildDeletion) with
  | none =>
    rw [retained] at ended
    obtain ⟨rfl, rfl⟩ := ends_pure.mp ended
    exact .inl ⟨rfl, (withRuns_eq_self (filed.runsOf_stored build)).symm⟩
  | some retain =>
    rw [retained] at ended
    obtain rest | ⟨error, rfl, caused, rfl⟩ := (reads_send rfl).bind_only ended
    · exact adjustRuns_only (filed.runsOf_sorted build) (filed.runsOf_stored build) rest
    · exact .inr ⟨error, 0, rfl, caused, rfl⟩

/-- Only the first concern writes, so whatever ends the checks leaves behind runs that are adjusted
up to some point. -/
theorem firstViolation?_only (filed : c.Filed)
    (ended : (Concern.firstViolation? build Concern.ofBuild).Ends (Meets hazards) c r d) :
    (r = .ok (c.violation? build) ∧ d = c.withRuns (build.settle (c.runsOf build))) ∨
      ∃ error n, r = .error error ∧ hazards.Causes error ∧
        d = c.withRuns ((build.settle (c.runsOf build)).take n) := by
  obtain rest | ⟨error, rfl, caused, rfl⟩ := reads_checkpoint.bind_only ended
  · rcases ends_bind.mp rest with ⟨found, middle, owned, later⟩ | ⟨error, failed, rfl⟩
    · obtain ⟨same, rfl⟩ | ⟨_, _, impossible, _⟩ := ownershipViolation?_only filed owned
      · cases same
        have first : c.verdict build .ownerReferences = c.ownershipVerdict build := rfl
        unfold Cluster.violation? Concern.ofBuild
        rw [List.findSome?_cons, first]
        cases verdict : c.ownershipVerdict build with
        | some violation =>
          rw [verdict] at later
          obtain ⟨rfl, rfl⟩ := ends_pure.mp later
          exact .inl ⟨rfl, rfl⟩
        | none =>
          rw [verdict] at later
          obtain ⟨rfl, rfl | ⟨error, rfl, caused⟩⟩ :=
            (Concern.reads_firstViolation? (by decide)).only later
          · refine .inl ⟨?_, rfl⟩
            rw [(withRuns_shares c _).findSome? (by decide)]
          · exact .inr ⟨error, _, rfl, caused, by rw [List.take_length]⟩
      · cases impossible
    · obtain ⟨impossible, _⟩ | ⟨_, n, same, caused, rfl⟩ := ownershipViolation?_only filed failed
      · cases impossible
      · cases same
        exact .inr ⟨_, n, rfl, caused, rfl⟩
  · exact .inr ⟨error, 0, rfl, caused, rfl⟩

section Endings

variable (filed : c.Filed)

include filed

theorem ends_ownershipViolation? :
    (ownershipViolation? build).Ends (Meets hazards) c (.ok (c.ownershipVerdict build))
      (c.withRuns (build.settle (c.runsOf build))) := by
  unfold ownershipViolation? settle
  rw [ownershipVerdict_eq]
  cases build.spec.retention.bind (·.atBuildDeletion) with
  | none => exact ends_pure.mpr ⟨rfl, withRuns_eq_self (filed.runsOf_stored build)⟩
  | some retain =>
    exact (reads_send rfl).ends_bind
      (ends_adjustRuns (filed.runsOf_sorted build) (filed.runsOf_stored build))

theorem ends_firstViolation? :
    (Concern.firstViolation? build Concern.ofBuild).Ends (Meets hazards) c
      (.ok (c.violation? build)) (c.withRuns (build.settle (c.runsOf build))) := by
  refine reads_checkpoint.ends_bind ?_
  refine ends_bind.mpr (.inl ⟨_, _, ends_ownershipViolation? filed, ?_⟩)
  have first : c.verdict build .ownerReferences = c.ownershipVerdict build := rfl
  unfold Cluster.violation? Concern.ofBuild
  rw [List.findSome?_cons, first]
  cases c.ownershipVerdict build with
  | some violation => exact ends_pure.mpr ⟨rfl, rfl⟩
  | none =>
    dsimp only
    rw [← (withRuns_shares c (build.settle (c.runsOf build))).findSome? (by decide)]
    exact (Concern.reads_firstViolation? (by decide)).ends hazards

theorem ends_firstViolation?_cut (fails : hazards.failures) (error : RequestError) (n : Nat) :
    (Concern.firstViolation? build Concern.ofBuild).Ends (Meets hazards) c
      (.error (.request error)) (c.withRuns ((build.settle (c.runsOf build)).take n)) ∨
      c.withRuns ((build.settle (c.runsOf build)).take n) =
        c.withRuns (build.settle (c.runsOf build)) := by
  have stored := filed.runsOf_stored build
  cases retained : build.spec.retention.bind (·.atBuildDeletion) with
  | none =>
    simp only [settle, retained]
    rw [withRuns_eq_self stored, withRuns_eq_self fun run member =>
      stored run (List.mem_of_mem_take member)]
    exact .inr rfl
  | some retain =>
    simp only [settle, retained]
    refine (ends_adjustRuns_cut fails error n (filed.runsOf_sorted build) stored).imp_left
      fun cut => ?_
    refine reads_checkpoint.ends_bind (ends_bind.mpr (.inr ⟨_, ?_, rfl⟩))
    change (ownershipViolation? build).Ends _ _ _ _
    unfold ownershipViolation?
    rw [retained]
    exact (reads_send rfl).ends_bind cut

end Endings

theorem reads_getBuild (stored : c.builds.get? key = some build) :
    (send (.getBuild key.ns key.name)).Reads c (.ok (some build)) := by
  apply reads_send
  rw [← stored]
  rfl

/-- A pass over a stored build ends in no other way. -/
theorem register_only (filed : c.Filed) (stored : c.builds.get? key = some build)
    (ended : (register key.ns key.name).Ends (Meets hazards) c r d) :
    c.Enrolls hazards build r d := by
  cases filed.builds key build stored
  obtain rest | ⟨error, rfl, caused, rfl⟩ := (reads_getBuild stored).bind_only ended
  · rcases ends_bind.mp rest with ⟨violation?, middle, checked, written⟩ | ⟨error, failed, rfl⟩
    · obtain ⟨same, rfl⟩ | ⟨_, _, impossible, _⟩ := firstViolation?_only filed checked
      · cases same
        have present : (c.withRuns (build.settle (c.runsOf build))).builds.get?
            build.metadata.key = some build := by rw [withRuns_builds, stored]
        have answered := answer_updateBuildStatus (.ofViolation (c.violation? build)) present
        obtain ⟨_, answer, rfl⟩ | ⟨fails, effect, error, rfl⟩ := ends_request.mp written
        · rw [answered] at answer
          cases answer
          exact .written
        · rw [answered] at effect
          rcases effect with rfl | ⟨loses, rfl⟩
          · have caused : hazards.Causes (.request error) := fails
            have cut := @Enrolls.aborted hazards c build _ caused
              (build.settle (c.runsOf build)).length
            rwa [List.take_length] at cut
          · exact .lost fails loses
      · cases impossible
    · obtain ⟨impossible, _⟩ | ⟨_, n, same, caused, rfl⟩ := firstViolation?_only filed failed
      · cases impossible
      · cases same
        exact .aborted caused n
  · exact .aborted caused 0

theorem register_missing (missing : c.builds.get? key = none)
    (ended : (register key.ns key.name).Ends (Meets hazards) c r d) : d = c := by
  have absent : (send (.getBuild key.ns key.name)).Reads c (.ok none) := by
    apply reads_send
    rw [← missing]
    rfl
  obtain rest | ⟨_, _, _, same⟩ := absent.bind_only ended
  · exact (ends_pure.mp rest).2
  · exact same

theorem ends_register (filed : c.Filed) (stored : c.builds.get? key = some build) :
    (register key.ns key.name).Ends (Meets hazards) c (.ok ())
      ((c.withRuns (build.settle (c.runsOf build))).withBuild
        { build with status := .ofViolation (c.violation? build) }) := by
  cases filed.builds key build stored
  refine (reads_getBuild stored).ends_bind ?_
  refine ends_bind.mpr (.inl ⟨_, _, ends_firstViolation? filed, ?_⟩)
  have present : (c.withRuns (build.settle (c.runsOf build))).builds.get? build.metadata.key =
      some build := by rw [withRuns_builds, stored]
  exact ends_request.mpr (.inl ⟨(), answer_updateBuildStatus _ present, rfl⟩)

theorem ends_register_fail (fails : hazards.failures) (error : RequestError) (key : ObjectKey)
    (c : Cluster) :
    (register key.ns key.name).Ends (Meets hazards) c (.error (.request error)) c := by
  refine ends_bind.mpr (.inr ⟨_, ?_, rfl⟩)
  exact ends_request.mpr (.inr ⟨fails, .inl rfl, error, rfl⟩)

theorem ends_register_cut (filed : c.Filed) (stored : c.builds.get? key = some build)
    (fails : hazards.failures) (error : RequestError) (n : Nat) :
    (register key.ns key.name).Ends (Meets hazards) c (.error (.request error))
      (c.withRuns ((build.settle (c.runsOf build)).take n)) := by
  refine (reads_getBuild stored).ends_bind ?_
  rcases ends_firstViolation?_cut filed fails error n with cut | same
  · exact ends_bind.mpr (.inr ⟨_, cut, rfl⟩)
  · -- No adjustment is left to be cut off, so it is the write of the status that fails.
    rw [same]
    refine ends_bind.mpr (.inl ⟨_, _, ends_firstViolation? filed, ?_⟩)
    exact ends_request.mpr (.inr ⟨fails, .inl rfl, error, rfl⟩)

end Build

namespace BuildRun

theorem ends_advance_fail (settings : Settings) (fails : hazards.failures) (error : RequestError)
    (key : ObjectKey) (c : Cluster) :
    (advance settings key.ns key.name).Ends (Meets hazards) c (.error (.request error)) c := by
  rw [advance_eq]
  refine ends_bind.mpr (.inr ⟨_, ?_, rfl⟩)
  exact ends_request.mpr (.inr ⟨fails, .inl rfl, error, rfl⟩)

end BuildRun

namespace Cluster

/-- Without losses, a pass over a build that ends with an error leaves behind the owners of some of
the first runs, and any number of them is possible. -/
theorem register_error_iff (filed : c.Filed) (key : ObjectKey) :
    (∃ error, (Build.register key.ns key.name).Ends (Meets (.failing cancels)) c (.error error) d) ↔
      d = c ∨ ∃ build n, c.builds.get? key = some build ∧
        d = c.withRuns ((build.settle (c.runsOf build)).take n) := by
  constructor
  · rintro ⟨error, ended⟩
    cases stored : c.builds.get? key with
    | some build =>
      cases Build.register_only filed stored ended with
      | aborted _ n => exact .inr ⟨build, n, rfl, rfl⟩
      | lost _ loses => exact loses.elim
    | none => exact .inl (Build.register_missing stored ended)
  · rintro (rfl | ⟨build, n, stored, rfl⟩)
    · exact ⟨_, Build.ends_register_fail trivial .transport key d⟩
    · exact ⟨_, Build.ends_register_cut filed stored trivial .transport n⟩

/-- Without losses, a pass over a run that ends with an error leaves behind its task run or
nothing. -/
theorem advance_error_iff (settings : Settings) (filed : c.Filed) (key : ObjectKey) :
    (∃ error, (BuildRun.advance settings key.ns key.name).Ends (Meets (.failing cancels)) c
        (.error error) d) ↔
      d = c ∨ ∃ run name, c.runs.get? key = some run ∧ run.status.isDone = false ∧
        c.Prepares settings run name d := by
  constructor
  · rintro ⟨error, ended⟩
    cases stored : c.runs.get? key with
    | some run =>
      cases filed.runs key run stored
      cases BuildRun.advance_only stored ended with
      | deferred | interrupted => exact .inl rfl
      | aborted notDone _ prepares => exact .inr ⟨run, _, rfl, notDone, prepares⟩
      | lost _ _ loses => exact loses.elim
    | none => exact .inl (BuildRun.advance_missing stored ended)
  · rintro (rfl | ⟨run, name, stored, notDone, prepares⟩)
    · exact ⟨_, BuildRun.ends_advance_fail settings trivial .transport key d⟩
    · cases filed.runs key run stored
      exact ⟨_, BuildRun.ends_advance_unwritten stored notDone (.started prepares default) trivial
        .transport⟩

/-- What passes leave behind that end with an error, if a request that fails has no effect: those
over a build the owners of some of the first runs, and those over a run its task run. Builds, and
what else is known of runs, stay as they were. -/
theorem failing_passes_leave (settings : Settings) (filed : c.Filed) (key : ObjectKey)
    (cancels : Prop) :
    ((∃ error, (Build.register key.ns key.name).Ends (Meets (.failing cancels)) c
        (.error error) d) ↔
      d = c ∨ ∃ build n, c.builds.get? key = some build ∧
        d = c.withRuns ((build.settle (c.runsOf build)).take n)) ∧
    ((∃ error, (BuildRun.advance settings key.ns key.name).Ends (Meets (.failing cancels)) c
        (.error error) d) ↔
      d = c ∨ ∃ run name, c.runs.get? key = some run ∧ run.status.isDone = false ∧
        c.Prepares settings run name d) :=
  ⟨register_error_iff filed key, advance_error_iff settings filed key⟩

/-- The task run of a run is there, and the pass that created it ended with an error. -/
theorem failing_passes_leave_created :
    let run : BuildRun :=
      { metadata := { name := "run", uid := "0a1b2c" }, spec := { build := { name := "app" } } }
    let build : Build :=
      { metadata := { name := "app" }
        spec := { strategy := { name := "kaniko" }, output := { image := "registry/app" } }
        status := { registered := some .true } }
    let strategy : BuildStrategy := { metadata := { name := "kaniko" }, spec := {} }
    let c := (((Cluster.put {} (.build build)).put (.strategy strategy)).put (.run run))
    ∃ error, (BuildRun.advance {} "" "run").Ends (Meets (.failing False)) c (.error error)
      (c.withTaskRun (TaskRun.plan {} "run-0a1b2" build run strategy.spec)) := by
  intro run build strategy c
  have filed : c.Filed :=
    ((filed_empty.put (.build build)).put (.strategy strategy)).put (.run run)
  have stored : c.runs.get? ⟨"", "run"⟩ = some run := OrderedMap.get?_insert_self _ _ _
  have suffix : TaskRunPlan.nameSuffix? run.metadata.uid = some "0a1b2" := by decide
  have names : run.Names "run-0a1b2" := .of_suffix suffix
  refine (failing_passes_leave {} filed ⟨"", "run"⟩ False).2.mpr
    (.inr ⟨run, "run-0a1b2", stored, rfl, rfl, build, strategy, rfl, names, ?_⟩)
  exact .created rfl names rfl

/-- A pass over a build that ends with an error need not leave its runs alone. -/
theorem failing_passes_not_neutral :
    ¬∀ (c d : Cluster) (key : ObjectKey) (error : PassError), c.Filed →
      (Build.register key.ns key.name).Ends (Meets (.failing False)) c (.error error) d →
      d = c := by
  intro neutral
  let build : Build :=
    { metadata := { name := "app" }
      spec := { strategy := { name := "kaniko" }, output := { image := "registry/app" }
                retention := some { atBuildDeletion := some true } } }
  let run : BuildRun :=
    { metadata := { name := "run", labels := OrderedMap.empty.insert buildLabel "app" }
      spec := { build := { name := "app" } } }
  let c := (Cluster.put {} (.build build)).put (.run run)
  have filed : c.Filed := (filed_empty.put (.build build)).put (.run run)
  have stored : c.builds.get? ⟨"", "app"⟩ = some build := OrderedMap.get?_insert_self _ _ _
  have same := neutral c _ ⟨"", "app"⟩ (.request .transport) filed
    (Build.ends_register_cut filed stored trivial .transport 1)
  have owned := congrArg (fun d : Cluster => (d.runs.get? ⟨"", "run"⟩).map
    (·.metadata.ownerReferences)) same
  revert owned
  decide

end Cluster

end BuildController
