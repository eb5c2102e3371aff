import BuildController.Proofs.Status

/-! Transition times after any number of changes. A condition that is set again and again is one
entry in its place among the others. Its transition time goes back to the first of the latest
conditions that all say the same, and that may be the one that was there before. -/
namespace BuildController.Condition

variable {c d old last found : Condition} {history updates stretch conditions : List Condition}
  {type : String}

/-- Sets one condition after the other. -/
def setAll (updates conditions : List Condition) : List Condition :=
  updates.foldl (fun known c => c.set known) conditions

/-- Status and reason are the same, whatever the messages and times are. -/
def Restates (c d : Condition) : Prop := c.status = d.status ∧ c.reason = d.reason

instance : Decidable (Restates c d) := inferInstanceAs (Decidable (_ ∧ _))

/-- The longest end of a history in which every condition restates the given one. -/
structure LatestStretch (history : List Condition) (c : Condition) (stretch : List Condition) :
    Prop where
  suffix : stretch <:+ history
  restates : ∀ d ∈ stretch, d.Restates c
  longest : ∀ other, other <:+ history → (∀ d ∈ other, d.Restates c) →
    other.length ≤ stretch.length

/-- The condition says what was said last, and since when. -/
def Records (found : Condition) (history : List Condition) : Prop :=
  ∃ last first later, history.getLast? = some last ∧ LatestStretch history last (first :: later) ∧
    found = { last with lastTransitionTime := first.lastTransitionTime }

namespace Restates

theorem refl (c : Condition) : c.Restates c := ⟨rfl, rfl⟩

theorem symm (same : c.Restates d) : d.Restates c := ⟨same.1.symm, same.2.symm⟩

theorem trans (same : c.Restates d) (same' : d.Restates old) : c.Restates old :=
  ⟨same.1.trans same'.1, same.2.trans same'.2⟩

end Restates

namespace LatestStretch

theorem unique (latest : LatestStretch history c stretch)
    (latest' : LatestStretch history c stretch') : stretch = stretch' := by
  have le := latest'.longest stretch latest.suffix latest.restates
  have ge := latest.longest stretch' latest'.suffix latest'.restates
  have within := List.suffix_of_suffix_length_le latest.suffix latest'.suffix le
  exact within.eq_of_length (Nat.le_antisymm le ge)

theorem whole (restates : ∀ d ∈ history, d.Restates c) : LatestStretch history c history where
  suffix := List.suffix_refl history
  restates := restates
  longest _ within _ := within.length_le

/-- A condition that says the same again makes the stretch longer. -/
theorem extend (latest : LatestStretch history last stretch) (same : last.Restates c) :
    LatestStretch (history ++ [c]) c (stretch ++ [c]) where
  suffix := by
    obtain ⟨before, rfl⟩ := latest.suffix
    exact ⟨before, by rw [List.append_assoc]⟩
  restates d member := by
    obtain earlier | rfl : d ∈ stretch ∨ d = c := by simpa using member
    · exact (latest.restates d earlier).trans same
    · exact .refl d
  longest other within restates := by
    obtain rfl | ⟨earlier, rfl, before⟩ := List.suffix_concat_iff.mp within
    · exact Nat.zero_le _
    · have bound : earlier.length ≤ stretch.length := by
        apply latest.longest earlier before
        intro d member
        exact (restates d (List.mem_append_left _ member)).trans same.symm
      simpa using bound

/-- A condition that says something new begins a stretch. -/
theorem begin (set : history.getLast? = some last) (new : ¬last.Restates c) :
    LatestStretch (history ++ [c]) c [c] where
  suffix := List.suffix_append history [c]
  restates := List.forall_mem_singleton.mpr (.refl c)
  longest other within restates := by
    obtain rfl | ⟨earlier, rfl, start, rfl⟩ := List.suffix_concat_iff.mp within
    · exact Nat.zero_le _
    · rcases List.eq_nil_or_concat earlier with rfl | ⟨before, d, rfl⟩
      · exact Nat.le_refl 1
      · -- A longer end would hold the last condition of the history, which says something else.
        rw [List.concat_eq_append] at set restates
        rw [← List.append_assoc, List.getLast?_concat] at set
        cases set
        exact absurd (restates last (by simp)) new

/-- If not even the first condition belongs to the stretch, it can be left out of the history. -/
theorem of_cons (latest : LatestStretch (old :: updates) c stretch)
    (changed : ¬∀ d ∈ old :: updates, d.Restates c) : LatestStretch updates c stretch where
  suffix := by
    obtain rfl | within := List.suffix_cons_iff.mp latest.suffix
    · exact absurd latest.restates changed
    · exact within
  restates := latest.restates
  longest other within := latest.longest other (within.trans (List.suffix_cons old updates))

end LatestStretch

theorem records_self (c : Condition) : c.Records [c] :=
  ⟨c, c, [], rfl, .whole (List.forall_mem_singleton.mpr (.refl c)), rfl⟩

/-- The transition time moves on exactly when a condition begins a new stretch. -/
theorem Records.replacing (records : old.Records history) (c : Condition) :
    (c.replacing old).Records (history ++ [c]) := by
  obtain ⟨last, first, later, set, latest, rfl⟩ := records
  by_cases same : last.Restates c
  · refine ⟨c, first, later ++ [c], List.getLast?_concat, latest.extend same, ?_⟩
    exact if_pos same
  · refine ⟨c, c, [], List.getLast?_concat, .begin set same, ?_⟩
    exact if_neg same

theorem Records.setAll (records : found.Records history)
    (there : find? conditions type = some found) (typed : ∀ c ∈ updates, c.type = type) :
    ∃ found, find? (Condition.setAll updates conditions) type = some found ∧
      found.Records (history ++ updates) := by
  induction updates generalizing conditions found history with
  | nil => exact ⟨found, there, by rwa [List.append_nil]⟩
  | cons c updates ih =>
    obtain ⟨here, typed⟩ := List.forall_mem_cons.mp typed
    have next : find? (c.set conditions) type = some (c.replacing found) := by
      rw [← here, find?_set, here, there]
      rfl
    rw [List.append_cons]
    exact ih (records.replacing c) next typed

/-- The history of a condition begins with the one that was there before, if there was one. -/
theorem exists_records (conditions : List Condition) (set : updates ≠ [])
    (typed : ∀ c ∈ updates, c.type = type) :
    ∃ found, find? (setAll updates conditions) type = some found ∧
      found.Records ((find? conditions type).toList ++ updates) := by
  cases known : find? conditions type with
  | some old => exact (records_self old).setAll known typed
  | none =>
    -- The first update has nothing to follow, so that the record begins with itself.
    cases updates with
    | nil => exact absurd rfl set
    | cons c updates =>
      obtain ⟨here, typed⟩ := List.forall_mem_cons.mp typed
      have first : find? (c.set conditions) type = some c := by
        rw [← here, find?_set, here, known]
        rfl
      exact (records_self c).setAll first typed

theorem nodup_set (c : Condition) (distinct : (conditions.map Condition.type).Nodup) :
    ((c.set conditions).map Condition.type).Nodup := by
  rw [set_eq_upsert, map_upsert]
  split
  · exact distinct
  · next new =>
    apply (List.perm_append_singleton _ _).nodup_iff.mpr
    exact List.nodup_cons.mpr ⟨new, distinct⟩

theorem nodup_setAll (distinct : (conditions.map Condition.type).Nodup) (updates : List Condition) :
    ((setAll updates conditions).map Condition.type).Nodup := by
  induction updates generalizing conditions with
  | nil => exact distinct
  | cons c updates ih => exact ih (nodup_set c distinct)

theorem others_set (c : Condition) (conditions : List Condition) :
    (c.set conditions).filter (fun d => d.type ≠ c.type) =
      conditions.filter fun d => d.type ≠ c.type := by
  rw [set_eq_upsert]
  exact filter_upsert (p := fun type => type ≠ c.type) (by simp)

theorem others_setAll (typed : ∀ c ∈ updates, c.type = type) (conditions : List Condition) :
    (setAll updates conditions).filter (fun d => d.type ≠ type) =
      conditions.filter fun d => d.type ≠ type := by
  induction updates generalizing conditions with
  | nil => rfl
  | cons c updates ih =>
    obtain ⟨rfl, typed⟩ := List.forall_mem_cons.mp typed
    exact (ih typed _).trans (others_set c conditions)

theorem Records.eq_last (records : found.Records history) (set : history.getLast? = some last) :
    found = { last with lastTransitionTime := found.lastTransitionTime } := by
  obtain ⟨last', first, later, set', latest, rfl⟩ := records
  cases set.symm.trans set'
  rfl

/-- If nothing new was ever said, the time is that of the condition before all others. -/
theorem Records.time_of_unchanged (records : found.Records (old :: updates))
    (set : updates.getLast? = some last) (unchanged : ∀ c ∈ old :: updates, c.Restates last) :
    found.lastTransitionTime = old.lastTransitionTime := by
  obtain ⟨last', first, later, set', latest, rfl⟩ := records
  rw [List.getLast?_cons, set] at set'
  cases set'
  cases latest.unique (.whole unchanged)
  rfl

/-- If something new was said, the condition before all others has no say in the time. -/
theorem Records.time_of_changed {before : Option Condition}
    (records : found.Records (before.toList ++ updates)) (set : updates.getLast? = some last)
    (changed : ∀ old, before = some old → ¬∀ c ∈ old :: updates, c.Restates last) :
    ∃ first later, LatestStretch updates last (first :: later) ∧
      found.lastTransitionTime = first.lastTransitionTime := by
  obtain ⟨last', first, later, set', latest, rfl⟩ := records
  rw [List.getLast?_append, set] at set'
  cases set'
  refine ⟨first, later, ?_, rfl⟩
  cases before with
  | none => exact latest
  | some old => exact latest.of_cons (changed old rfl)

/-- However often the condition of a type is set, the types stay distinct and the conditions of
other types stay as they are and in their order. The condition says what was set last. Its
transition time is that of the condition before all of them, if this one and all that were set have
the same status and reason, and else that of the first of the longest row of conditions with this
status and reason that were set in the end. -/
theorem setAll_transition (distinct : (conditions.map Condition.type).Nodup)
    (typed : ∀ c ∈ updates, c.type = type) (set : updates.getLast? = some last) :
    let known := setAll updates conditions
    (known.map Condition.type).Nodup ∧
      known.filter (fun c => c.type ≠ type) = conditions.filter (fun c => c.type ≠ type) ∧
      ∃ time, find? known type = some { last with lastTransitionTime := time } ∧
        (∀ old, find? conditions type = some old → (∀ c ∈ old :: updates, c.Restates last) →
          time = old.lastTransitionTime) ∧
        ((∀ old, find? conditions type = some old → ¬∀ c ∈ old :: updates, c.Restates last) →
          ∃ first later, LatestStretch updates last (first :: later) ∧
            time = first.lastTransitionTime) := by
  intro known
  have nonempty : updates ≠ [] := by
    rintro rfl
    cases set
  obtain ⟨found, there, records⟩ := exists_records conditions nonempty typed
  have setLast : ((find? conditions type).toList ++ updates).getLast? = some last := by
    rw [List.getLast?_append, set, Option.some_or]
  refine ⟨nodup_setAll distinct updates, others_setAll typed conditions, found.lastTransitionTime,
    ?_, ?_, ?_⟩
  · rw [← records.eq_last setLast]
    exact there
  · intro old before unchanged
    rw [before] at records
    exact records.time_of_unchanged set unchanged
  · exact records.time_of_changed set

/-- A run goes back to an earlier reason and away from it again. What it then says twice, with two
messages, is true since the first time. -/
theorem setAll_transition_relapsed :
    let moment (second : Fin 60) : Instant :=
      ⟨⟨2026, 2, 28, by decide, by decide, by decide⟩, 23, 59, second, 0, by decide, by decide,
        second.isLt, by decide⟩
    let entry (reason message : String) (second : Fin 60) : Condition :=
      ⟨succeededType, .unknown, reason, message, some (moment second)⟩
    let conditions := [entry "Pending" "" 0, ⟨"Ready", .true, "Up", "", none⟩]
    let last := entry "Running" "pushing" 59
    let updates :=
      [entry "Running" "fetching" 1, entry "Pending" "" 2, entry "Running" "building" 3, last]
    (conditions.map Condition.type).Nodup ∧ (∀ c ∈ updates, c.type = succeededType) ∧
      updates.getLast? = some last ∧
      find? (setAll updates conditions) succeededType =
        some { last with lastTransitionTime := some (moment 3) } := by
  intro moment entry conditions last updates
  have distinct : (conditions.map Condition.type).Nodup := by decide
  have typed : ∀ c ∈ updates, c.type = succeededType := by decide
  obtain ⟨-, -, time, found, -, changed⟩ := setAll_transition distinct typed rfl
  have relapsed : ¬(entry "Pending" "" 2).Restates last := by decide
  obtain ⟨first, later, latest, rfl⟩ := changed fun old _ unchanged =>
    relapsed (unchanged _ (by simp [updates]))
  have anew : LatestStretch (updates.take 2 ++ [entry "Running" "building" 3])
      (entry "Running" "building" 3) [entry "Running" "building" 3] :=
    .begin rfl relapsed
  have stretch : LatestStretch updates last [entry "Running" "building" 3, last] :=
    anew.extend ⟨rfl, rfl⟩
  cases latest.unique stretch
  exact ⟨distinct, typed, rfl, found⟩

end BuildController.Condition
