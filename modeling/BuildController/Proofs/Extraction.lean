import BuildController.Observation
import BuildController.Proofs.RoundTrip

/-! Why a task run failed, in the words of a step. The first step whose message has entries for
both reason and message is believed, and steps without such a message are passed over. What a step
writes as entries is read as the same entries, so its words arrive as they were. -/
namespace BuildController

/-- The first entry with the key has the value. -/
def ResultEntry.First (entries : List ResultEntry) (key value : String) : Prop :=
  ∃ before after, entries = before ++ ⟨key, value⟩ :: after ∧ ∀ entry ∈ before, entry.key ≠ key

/-- The entries tell why a step failed. -/
structure FailureDetails.ToldBy (details : FailureDetails) (entries : List ResultEntry) : Prop where
  reason : ResultEntry.First entries "kiln-result-error-reason" details.reason
  message : ResultEntry.First entries "kiln-result-error-message" details.message

namespace StepState

/-- The step left a message that decodes as entries which tell why it failed. -/
inductive Tells (step : StepState) (details : FailureDetails) : Prop
  | entries (ended : step.terminated = some ending) (nonempty : ending.message ≠ "")
      (decoded : ResultEntry.ofMessage? ending.message = some entries)
      (told : details.ToldBy entries) : Tells step details

/-- The step left no message, or one that cannot be read or lacks an entry. -/
inductive Silent (step : StepState) : Prop
  | unfinished (running : step.terminated = none) : Silent step
  | absent (ended : step.terminated = some ending) (empty : ending.message = "") : Silent step
  | unreadable (ended : step.terminated = some ending)
      (garbled : ResultEntry.ofMessage? ending.message = none) : Silent step
  | incomplete (ended : step.terminated = some ending)
      (decoded : ResultEntry.ofMessage? ending.message = some entries)
      (needed : key ∈ ["kiln-result-error-reason", "kiln-result-error-message"])
      (lacking : ∀ entry ∈ entries, entry.key ≠ key) : Silent step

end StepState

namespace TaskRun

/-- The first `Succeeded` condition is `False` for the reason `Failed`. -/
def Failed (taskRun : TaskRun) : Prop :=
  ∃ before c after, taskRun.status.conditions = before ++ c :: after ∧
    (∀ other ∈ before, other.type ≠ "Succeeded") ∧
    c.type = "Succeeded" ∧ c.status = .false ∧ c.reason = "Failed"

/-- The task run failed, and the first step that tells why tells this. -/
structure Explains (taskRun : TaskRun) (details : FailureDetails) : Prop where
  failed : taskRun.Failed
  told : ∃ before step after, taskRun.status.steps = before ++ step :: after ∧
    (∀ other ∈ before, other.Silent) ∧ step.Tells details

end TaskRun

namespace Observation

variable {step : StepState} {taskRun : TaskRun} {entries : List ResultEntry} {key : String}
  {details : FailureDetails}

theorem found_iff_first {value : String} :
    entry? entries key = some value ↔ ResultEntry.First entries key value := by
  unfold entry? ResultEntry.First
  rw [Option.map_eq_some_iff]
  simp only [List.find?_eq_some_iff_append]
  constructor
  · rintro ⟨⟨_, _⟩, ⟨same, before, after, rfl, others⟩, rfl⟩
    cases of_decide_eq_true same
    exact ⟨before, after, rfl, fun entry member => by simpa using others entry member⟩
  · rintro ⟨before, after, rfl, others⟩
    refine ⟨⟨key, value⟩, ⟨by simp, before, after, rfl, ?_⟩, rfl⟩
    exact fun entry member => by simpa using others entry member

theorem not_found_iff : entry? entries key = none ↔ ∀ entry ∈ entries, entry.key ≠ key := by
  unfold entry?
  simp

/-- Entries with both keys tell why a step failed. -/
theorem exists_toldBy (keys : ∀ key ∈ ["kiln-result-error-reason", "kiln-result-error-message"],
    ∃ entry ∈ entries, entry.key = key) : ∃ details : FailureDetails, details.ToldBy entries := by
  have found (key : String) (needed : key ∈ ["kiln-result-error-reason",
      "kiln-result-error-message"]) : ∃ value, ResultEntry.First entries key value := by
    obtain ⟨entry, there, same⟩ := keys key needed
    cases read : entry? entries key with
    | none => exact absurd same (not_found_iff.mp read entry there)
    | some value => exact ⟨value, found_iff_first.mp read⟩
  obtain ⟨reason, reasoned⟩ := found _ (.head _)
  obtain ⟨message, told⟩ := found _ (.tail _ (.head _))
  exact ⟨⟨reason, message⟩, reasoned, told⟩

/-- Of a message that decodes, the entries decide. -/
theorem stepFailure?_of_decoded (ended : step.terminated = some ending)
    (nonempty : ending.message ≠ "")
    (decoded : ResultEntry.ofMessage? ending.message = some entries) :
    stepFailure? step = do
      let reason ← entry? entries "kiln-result-error-reason"
      let message ← entry? entries "kiln-result-error-message"
      return ⟨reason, message⟩ := by
  simp [stepFailure?, ended, nonempty, decoded, TaskRunPlan.errorReasonResult,
    TaskRunPlan.errorMessageResult]

theorem stepFailure?_eq_some : stepFailure? step = some details ↔ step.Tells details := by
  constructor
  · intro found
    have opened := found
    simp only [stepFailure?, Option.bind_eq_bind, Option.bind_eq_some_iff] at opened
    obtain ⟨ending, ended, opened⟩ := opened
    split at opened
    · cases opened
    · next nonempty =>
      obtain ⟨entries, decoded, -⟩ := Option.bind_eq_some_iff.mp opened
      rw [stepFailure?_of_decoded ended nonempty decoded] at found
      obtain ⟨reason, reasoned, found⟩ := Option.bind_eq_some_iff.mp found
      obtain ⟨message, told, same⟩ := Option.bind_eq_some_iff.mp found
      cases same
      exact .entries ended nonempty decoded ⟨found_iff_first.mp reasoned, found_iff_first.mp told⟩
  · rintro ⟨ended, nonempty, decoded, reason, message⟩
    rw [stepFailure?_of_decoded ended nonempty decoded, found_iff_first.mpr reason,
      found_iff_first.mpr message]
    rfl

theorem stepFailure?_eq_none : stepFailure? step = none ↔ step.Silent := by
  constructor
  · intro none
    cases ended : step.terminated with
    | none => exact .unfinished ended
    | some ending =>
      by_cases empty : ending.message = ""
      · exact .absent ended empty
      · cases decoded : ResultEntry.ofMessage? ending.message with
        | none => exact .unreadable ended decoded
        | some entries =>
          rw [stepFailure?_of_decoded ended empty decoded] at none
          cases reason : entry? entries "kiln-result-error-reason" with
          | none => exact .incomplete ended decoded (.head _) (not_found_iff.mp reason)
          | some value =>
            refine .incomplete ended decoded (.tail _ (.head _)) (not_found_iff.mp ?_)
            exact Option.eq_none_iff_forall_ne_some.mpr (by simpa [reason] using none)
  · intro silent
    cases silent with
    | unfinished running => simp [stepFailure?, running]
    | absent ended empty => simp [stepFailure?, ended, empty]
    | unreadable ended garbled => simp [stepFailure?, ended, garbled]
    | @incomplete ending entries key ended decoded needed lacking =>
      by_cases empty : ending.message = ""
      · simp [stepFailure?, ended, empty]
      · have absent := not_found_iff.mpr lacking
        rw [stepFailure?_of_decoded ended empty decoded]
        simp only [List.mem_cons, List.not_mem_nil, or_false] at needed
        obtain rfl | rfl := needed
        · rw [absent]
          rfl
        · simp [absent]

theorem hasFailed_iff : hasFailed taskRun = true ↔ taskRun.Failed := by
  simp only [hasFailed, TaskRun.Failed]
  constructor
  · intro failed
    cases found : taskRun.status.succeeded? with
    | none => simp [found] at failed
    | some c =>
      obtain ⟨same, before, after, conditions, others⟩ := List.find?_eq_some_iff_append.mp found
      simp only [found, Condition.agrees, Bool.and_eq_true, decide_eq_true_eq] at failed
      obtain ⟨⟨type, status⟩, reason⟩ := failed
      refine ⟨before, c, after, conditions, ?_, type, status, reason⟩
      exact fun other member => of_decide_eq_false ((Bool.not_eq_true' _).mp (others other member))
  · rintro ⟨before, c, after, conditions, others, type, status, reason⟩
    have found : taskRun.status.succeeded? = some c := by
      refine List.find?_eq_some_iff_append.mpr ⟨decide_eq_true type, before, after, conditions, ?_⟩
      exact fun other member => (Bool.not_eq_true' _).mpr (decide_eq_false (others other member))
    simp [found, Condition.agrees, type, status, reason, Condition.succeededType, failedReason]

/-- What is extracted of a failed task run is what it explains. -/
theorem findSome?_stepFailure? (failed : taskRun.Failed) :
    taskRun.status.steps.findSome? stepFailure? = some details ↔ taskRun.Explains details := by
  rw [List.findSome?_eq_some_iff]
  simp only [stepFailure?_eq_some, stepFailure?_eq_none]
  constructor
  · rintro ⟨before, step, after, steps, told, silent⟩
    exact ⟨failed, before, step, after, steps, silent, told⟩
  · rintro ⟨-, before, step, after, steps, silent, told⟩
    exact ⟨before, step, after, steps, told, silent⟩

theorem failures_of_explains (run : BuildRun) (explains : taskRun.Explains details) :
    failures run taskRun = { run with status := { run.status with failure := some details } } := by
  have found := (findSome?_stepFailure? explains.failed).mpr explains
  rw [failures, if_pos (hasFailed_iff.mpr explains.failed), found]

theorem failures_of_unexplained (run : BuildRun)
    (unexplained : ∀ details, ¬taskRun.Explains details) : failures run taskRun = run := by
  by_cases failed : taskRun.Failed
  · have none : taskRun.status.steps.findSome? stepFailure? = none := by
      rw [Option.eq_none_iff_forall_ne_some]
      exact fun details found => unexplained details ((findSome?_stepFailure? failed).mp found)
    rw [failures, none]
    exact ite_self run
  · rw [failures, if_neg (mt hasFailed_iff.mp failed)]

/-- A failed task run explains itself if any of its steps tells why. -/
theorem exists_explains : (∃ details, taskRun.Explains details) ↔
    taskRun.Failed ∧ ∃ step ∈ taskRun.status.steps, ∃ details, step.Tells details := by
  constructor
  · rintro ⟨details, failed, before, step, after, steps, -, told⟩
    exact ⟨failed, step, by simp [steps], details, told⟩
  · rintro ⟨failed, step, member, details, told⟩
    have found : (taskRun.status.steps.findSome? stepFailure?).isSome := by
      rw [List.isSome_findSome?, List.any_eq_true]
      exact ⟨step, member, by rw [stepFailure?_eq_some.mpr told]; rfl⟩
    obtain ⟨first, found⟩ := Option.isSome_iff_exists.mp found
    exact ⟨first, (findSome?_stepFailure? failed).mp found⟩

/-- A list is never written as the empty text. -/
theorem render_ne_empty (entries : List ResultEntry) : Json.render (Wire.encode entries) ≠ "" := by
  intro empty
  have letters := congrArg String.toList empty
  rw [Json.render, String.toList_ofList] at letters
  cases letters

/-- Nothing but the failure of a run is written, and that exactly if its task run failed and one of
its steps tells why. The first such step is believed; those before it left no message, or one that
cannot be read or lacks an entry. Entries that are written as a message are believed as they are: of
several with one key the first counts. -/
theorem failures_exact (run : BuildRun) (taskRun : TaskRun) :
    ((∃ details, taskRun.Explains details ∧ failures run taskRun =
        { run with status := { run.status with failure := some details } }) ∨
      ¬(taskRun.Failed ∧ ∃ step ∈ taskRun.status.steps, ∃ details, step.Tells details) ∧
        failures run taskRun = run) ∧
    ∀ before step after ending entries, taskRun.Failed →
      taskRun.status.steps = before ++ step :: after → (∀ other ∈ before, other.Silent) →
      step.terminated = some ending → ending.message = Json.render (Wire.encode entries) →
      (∀ key ∈ ["kiln-result-error-reason", "kiln-result-error-message"],
        ∃ entry ∈ entries, entry.key = key) →
      ∃ details : FailureDetails, details.ToldBy entries ∧ failures run taskRun =
        { run with status := { run.status with failure := some details } } := by
  constructor
  · by_cases explained : ∃ details, taskRun.Explains details
    · obtain ⟨details, explains⟩ := explained
      exact .inl ⟨details, explains, failures_of_explains run explains⟩
    · refine .inr ⟨mt exists_explains.mpr explained, ?_⟩
      exact failures_of_unexplained run (not_exists.mp explained)
  · intro before step after ending entries failed steps silent ended written keys
    obtain ⟨details, told⟩ := exists_toldBy keys
    have nonempty : ending.message ≠ "" := written ▸ render_ne_empty entries
    have decoded : ResultEntry.ofMessage? ending.message = some entries := by
      rw [written]
      exact (Wire.ofText?_render entries).trans (LawfulWire.decode_encode_of_regular (by simp))
    have tells : step.Tells details := .entries ended nonempty decoded told
    exact ⟨details, told,
      failures_of_explains run ⟨failed, before, step, after, steps, silent, tells⟩⟩

/-- Free text, and entries without a reason, come before a message whose words are quoted, break
lines and stand under keys that are given twice. An earlier failure is replaced. -/
theorem failures_exact_third :
    let run : BuildRun :=
      { metadata := { name := "run" }, spec := { build := { name := "app" } }
        status := { failure := some ⟨"old", "old"⟩ } }
    let entries : List ResultEntry :=
      [⟨"kiln-image-size", "3"⟩, ⟨"kiln-result-error-message", "\"größe\"\n\t\u0007😀"⟩,
        ⟨"kiln-result-error-reason", "\\"⟩, ⟨"kiln-result-error-message", "again"⟩]
    let ended (message : String) : StepState := ⟨"build", some ⟨1, "Error", message⟩⟩
    let taskRun : TaskRun :=
      { metadata := { name := "run-0a1b2" }, spec := { taskSpec := {} }
        status :=
          { conditions :=
              [⟨"Ready", .true, "", "", none⟩, ⟨"Succeeded", .false, "Failed", "", none⟩,
                ⟨"Succeeded", .true, "Succeeded", "", none⟩]
            steps := [⟨"prepare", none⟩, ended "exit status 1",
              ended "[\x7b\"key\":\"kiln-result-error-message\",\"value\":\"\"\x7d]",
              ended (Json.render (Wire.encode entries)), ended "[]"] } }
    taskRun.Failed ∧ failures run taskRun = { run with
      status := { failure := some ⟨"\\", "\"größe\"\n\t\u0007😀"⟩ } } := by
  intro run entries ended taskRun
  have failed : taskRun.Failed := hasFailed_iff.mp rfl
  have silent : ∀ other ∈ taskRun.status.steps.take 3, other.Silent := by
    intro other member
    rw [← stepFailure?_eq_none]
    revert other
    decide +kernel
  obtain ⟨⟨reason, message⟩, told, written⟩ := (failures_exact run taskRun).2
    (taskRun.status.steps.take 3) (ended (Json.render (Wire.encode entries))) [ended "[]"] _ entries
    failed rfl silent rfl rfl (by decide)
  have reasoned : entry? entries "kiln-result-error-reason" = some reason :=
    found_iff_first.mpr told.reason
  have worded : entry? entries "kiln-result-error-message" = some message :=
    found_iff_first.mpr told.message
  cases reasoned
  cases worded
  exact ⟨failed, written⟩

end Observation

end BuildController
