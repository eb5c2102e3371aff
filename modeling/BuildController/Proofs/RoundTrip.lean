import BuildController.Proofs.Codec
import BuildController.Proofs.Timestamps
import BuildController.Resource.BuildRun
import BuildController.Resource.Listing
import BuildController.Resource.Strategy
import BuildController.Resource.TaskRun

/-! Resources survive their wire form. Each record pairs its fields with their writing, their
reading and what a missing one means, and these laws follow record by record from those of the
fields. -/
namespace BuildController

instance : LawfulWire ConditionStatus fun _ => [] := Wire.lawful_named (by rintro ⟨⟩ <;> decide)

instance : LawfulWire BuildReason fun _ => [] := Wire.lawful_named (by rintro ⟨⟩ <;> decide)

instance : LawfulWire FieldSelector fun _ => [] := Fields.lawful_wire (by decide)

instance : LawfulWire KeySelector fun _ => [] := Fields.lawful_wire (by decide)

instance : LawfulWire EnvVarSource fun _ => [] := Fields.lawful_wire (by decide)

instance : LawfulWire EnvVar fun _ => [] := Fields.lawful_wire (by decide)

instance : LawfulWire OwnerReference fun _ => [] := Fields.lawful_wire (by decide)

instance : LawfulWire Metadata fun _ => [] := Fields.lawful_wire (by decide)

/-- The times in a condition. -/
def Condition.times (c : Condition) : List Instant := c.lastTransitionTime.toList

instance : LawfulWire Condition Condition.times :=
  Fields.lawful_wire (by decide) (by simp [Condition.times])

instance : LawfulWire GitSource fun _ => [] := Fields.lawful_wire (by decide)

instance : LawfulWire HttpSource fun _ => [] := Fields.lawful_wire (by decide)

instance : LawfulWire StrategyRef fun _ => [] := Fields.lawful_wire (by decide)

instance : LawfulWire ParamValue fun _ => [] := Fields.lawful_wire (by decide)

instance : LawfulWire Image fun _ => [] := Fields.lawful_wire (by decide)

instance : LawfulWire Toleration fun _ => [] := Fields.lawful_wire (by decide)

instance : LawfulWire Retention fun _ => [] := Fields.lawful_wire (by decide)

instance : LawfulWire GithubEvents fun _ => [] := Fields.lawful_wire (by decide)

instance : LawfulWire ImageNames fun _ => [] := Fields.lawful_wire (by decide)

instance : LawfulWire WatchedObjects fun _ => [] := Fields.lawful_wire (by decide)

instance : LawfulWire TriggerEvent fun _ => [] := Fields.lawful_wire (by decide)

instance : LawfulWire Trigger fun _ => [] := Fields.lawful_wire (by decide)

instance : LawfulWire BuildSpec fun _ => [] := Fields.lawful_wire (by decide)

instance : LawfulWire BuildStatus fun _ => [] := Fields.lawful_wire (by decide)

instance : LawfulWire Build fun _ => [] := Fields.lawful_wire (by decide)

instance : LawfulWire BuildRef fun _ => [] := Fields.lawful_wire (by decide)

instance : LawfulWire RunSpec fun _ => [] := Fields.lawful_wire (by decide)

instance : LawfulWire FailureDetails fun _ => [] := Fields.lawful_wire (by decide)

instance : LawfulWire OutputResult fun _ => [] := Fields.lawful_wire (by decide)

instance : LawfulWire SourceResult fun _ => [] := Fields.lawful_wire (by decide)

def RunStatus.times (s : RunStatus) : List Instant :=
  s.conditions.flatMap Condition.times ++ s.startTime.toList ++ s.completionTime.toList

instance : LawfulWire RunStatus RunStatus.times :=
  Fields.lawful_wire (by decide) (by simp [RunStatus.times])

def BuildRun.times (run : BuildRun) : List Instant := run.status.times

instance : LawfulWire BuildRun BuildRun.times :=
  Fields.lawful_wire (by decide) (by simp [BuildRun.times])

instance : LawfulWire VolumeMount fun _ => [] := Fields.lawful_wire (by decide)

instance : LawfulWire Step fun _ => [] := Fields.lawful_wire (by decide)

instance : LawfulWire ParamSpec fun _ => [] := Fields.lawful_wire (by decide)

instance : LawfulWire TaskResult fun _ => [] := Fields.lawful_wire (by decide)

instance : LawfulWire Volume fun _ => [] := Fields.lawful_wire (by decide)

instance : LawfulWire TaskSpec fun _ => [] := Fields.lawful_wire (by decide)

instance : LawfulWire StrategySpec fun _ => [] := Fields.lawful_wire (by decide)

instance : LawfulWire BuildStrategy fun _ => [] := Fields.lawful_wire (by decide)

instance : LawfulWire Param fun _ => [] := Fields.lawful_wire (by decide)

instance : LawfulWire TaskRunSpec fun _ => [] := Fields.lawful_wire (by decide)

instance : LawfulWire StepTerminated fun _ => [] := Fields.lawful_wire (by decide)

instance : LawfulWire StepState fun _ => [] := Fields.lawful_wire (by decide)

instance : LawfulWire TaskRunResult fun _ => [] := Fields.lawful_wire (by decide)

def TaskRunStatus.times (s : TaskRunStatus) : List Instant :=
  s.conditions.flatMap Condition.times ++ s.startTime.toList ++ s.completionTime.toList

instance : LawfulWire TaskRunStatus TaskRunStatus.times :=
  Fields.lawful_wire (by decide) (by simp [TaskRunStatus.times])

def TaskRun.times (t : TaskRun) : List Instant := t.status.times

instance : LawfulWire TaskRun TaskRun.times :=
  Fields.lawful_wire (by decide) (by simp [TaskRun.times])

instance : LawfulWire ResultEntry fun _ => [] := Fields.lawful_wire (by decide)

instance [Wire α] {times : α → List Instant} [LawfulWire α times] :
    LawfulWire (ObjectList α) fun list => list.items.flatMap times :=
  Fields.lawful_wire (by simp [Fields.names])

namespace Wire

/-- What becomes of a document that is read as a value of the type and written again. -/
def rewritten? (α : Type) [Wire α] (document : Json) : Option Json :=
  (decode document : Option α).map encode

def rewrittenText? (α : Type) [Wire α] (text : String) : Option String :=
  (ofText? α text).map fun a => Json.render (encode a)

/-- A text is read as the document that it spells. -/
theorem ofText?_render [Wire α] {times : α → List Instant} [LawfulWire α times] (a : α) :
    ofText? α (Json.render (encode a)) = decode (encode a) := by
  rw [ofText?, Json.parse?_render (encode_wellFormed a), Option.bind_some]

end Wire

/-- Nothing is lost on the wire but the leap seconds that their text hides. From the document that
it is written as, and likewise from its text, every value is read as one for which the same is
written, and as itself exactly if all leap seconds in it are regular. Whatever was read and written
once is then read and written without a change. -/
structure RoundTrips (α : Type) [Wire α] (times : α → List Instant) : Prop where
  succeeds : ∀ a : α, ∃ b, Wire.decode (Wire.encode a) = some b ∧ Wire.encode b = Wire.encode a ∧
    times b = (times a).map Instant.asRead
  reads : ∀ a : α, Wire.decode (Wire.encode a) = some a ↔ ∀ t ∈ times a, t.Regular
  readsText : ∀ a : α, Wire.ofText? α (Json.render (Wire.encode a)) = Wire.decode (Wire.encode a)
  settles : ∀ document written, Wire.rewritten? α document = some written →
    Wire.rewritten? α written = some written
  settlesText : ∀ text written, Wire.rewrittenText? α text = some written →
    Wire.rewrittenText? α written = some written

theorem RoundTrips.of_lawful [Wire α] {times : α → List Instant} [LawfulWire α times] :
    RoundTrips α times where
  succeeds a := by
    obtain ⟨b, read, rewritten, readsAs⟩ := decode_encode a
    exact ⟨b, read, rewritten, readsAs.asRead⟩
  reads := LawfulWire.decode_encode_iff
  readsText := Wire.ofText?_render
  settles document written rewritten := by
    obtain ⟨a, _, rfl⟩ := Option.map_eq_some_iff.mp rewritten
    obtain ⟨b, read, same, _⟩ := decode_encode a
    simp only [Wire.rewritten?, read, Option.map_some, same]
  settlesText text written rewritten := by
    obtain ⟨a, _, rfl⟩ := Option.map_eq_some_iff.mp rewritten
    obtain ⟨b, read, same, _⟩ := decode_encode a
    simp only [Wire.rewrittenText?, Wire.ofText?_render, read, Option.map_some, same]

/-- Every kind of resource, and what control planes and steps send in lists, survives the wire. -/
theorem resources_roundTrip :
    RoundTrips Build (fun _ => []) ∧ RoundTrips BuildRun BuildRun.times ∧
      RoundTrips BuildStrategy (fun _ => []) ∧ RoundTrips TaskRun TaskRun.times ∧
      RoundTrips (ObjectList Build) (fun _ => []) ∧
      RoundTrips (ObjectList BuildRun) (fun list => list.items.flatMap BuildRun.times) ∧
      RoundTrips Condition Condition.times ∧ RoundTrips (List ResultEntry) (fun _ => []) := by
  refine ⟨.of_lawful, .of_lawful, .of_lawful, .of_lawful, ?_, .of_lawful, .of_lawful, ?_⟩
  · have timeless : (fun list : ObjectList Build => list.items.flatMap fun _ => []) =
        fun _ => ([] : List Instant) := funext fun list => flatMap_timeless list.items
    exact timeless ▸ .of_lawful
  · have timeless : List.flatMap (fun _ : ResultEntry => []) = fun _ => ([] : List Instant) :=
      funext flatMap_timeless
    exact timeless ▸ .of_lawful

/-- A leap second within a minute has the text of the next second, and is read as that. -/
theorem resources_roundTrip_hidden :
    let date : Date := ⟨2015, 9, 8, by decide, by decide, by decide⟩
    let leap : Instant := ⟨date, 12, 34, 56, 1_333_333_333, by decide, by decide, by decide,
      by decide⟩
    let next : Instant := ⟨date, 12, 34, 57, 333_333_333, by decide, by decide, by decide,
      by decide⟩
    let changed (time : Instant) : Condition := ⟨"Succeeded", .true, "", "", some time⟩
    Wire.decode (Wire.encode (changed leap)) = some (changed next) ∧ changed next ≠ changed leap := by
  decide +kernel

end BuildController
