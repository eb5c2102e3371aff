import BuildController.Proofs.Merging

/-! What merging makes of a list, entry by entry. The names of the base stay where they are, and
those that only the overrides have follow once each, so the merged list is known from its names and
from what is left of each of them. -/
namespace BuildController

variable {nameOf : α → String} {name : String} {base overrides merged : List α} {entry old : α}
  {i : Nat}

/-- The merged list has the entries of the base in their places, and after them one entry of each
other name of the overrides, in the order in which these names occur first. The last override of a
name stands in the first place of this name. -/
structure Overridden (nameOf : α → String) (base overrides merged : List α) : Prop where
  replaced : ∀ i old last, base[i]? = some old → nameOf old ∉ (base.take i).map nameOf →
    (entriesOf nameOf (nameOf old) overrides).getLast? = some last → merged[i]? = some last
  kept : ∀ i old, base[i]? = some old →
    nameOf old ∈ (base.take i).map nameOf ∨ nameOf old ∉ overrides.map nameOf →
      merged[i]? = some old
  names : (merged.drop base.length).map nameOf =
    ((overrides.map nameOf).filter fun name => name ∉ base.map nameOf).eraseDups
  added : ∀ entry ∈ merged.drop base.length,
    (entriesOf nameOf (nameOf entry) overrides).getLast? = some entry

/-- The place of an entry among those of its name is the number of them that stand before it. -/
theorem getElem?_entriesOf {entries : List α} (there : entries[i]? = some entry)
    (same : nameOf entry = name) :
    (entriesOf nameOf name entries)[((entries.take i).map nameOf).count name]? = some entry := by
  induction entries generalizing i with
  | nil => simp at there
  | cons first rest ih =>
    cases i with
    | zero =>
      rw [List.getElem?_cons_zero, Option.some.injEq] at there
      rw [there, entriesOf_cons_same same]
      rfl
    | succ i =>
      rw [List.getElem?_cons_succ] at there
      rw [List.take_succ_cons, List.map_cons]
      by_cases here : nameOf first = name
      · rw [entriesOf_cons_same here, here, List.count_cons_self, List.getElem?_cons_succ, ih there]
      · rw [entriesOf_cons_other here, List.count_cons_of_ne here, ih there]

/-- The first entry of a name in the base gives way to the last override of this name, and all
others stay. -/
theorem getElem?_merge (there : base[i]? = some old) :
    (merge nameOf base overrides)[i]? =
      if nameOf old ∈ (base.take i).map nameOf then some old
      else (entriesOf nameOf (nameOf old) overrides).getLast?.or (some old) := by
  obtain ⟨bound, -⟩ := List.getElem?_eq_some_iff.mp there
  have fits : i < (base.map nameOf).length := by simpa using bound
  have named : ((merge nameOf base overrides).map nameOf)[i]? = some (nameOf old) := by
    rw [map_merge, List.getElem?_append_left fits, List.getElem?_map, there, Option.map_some]
  have before : ((merge nameOf base overrides).take i).map nameOf = (base.take i).map nameOf := by
    rw [List.map_take, map_merge, List.take_append_of_le_length (Nat.le_of_lt fits), List.map_take]
  rw [List.getElem?_map] at named
  obtain ⟨entry, found, same⟩ := Option.map_eq_some_iff.mp named
  have place := getElem?_entriesOf found same
  have oldPlace := getElem?_entriesOf there (rfl : nameOf old = nameOf old)
  rw [before] at place
  rw [found]
  -- Merging changes the first of the entries of a name and none of those behind it.
  cases earlier : ((base.take i).map nameOf).count (nameOf old) with
  | zero =>
    rw [earlier, ← List.head?_eq_getElem?] at place oldPlace
    rw [if_neg (List.count_eq_zero.mp earlier), ← place, ← oldPlace, head?_entriesOf_merge]
  | succ k =>
    rw [earlier, ← List.getElem?_tail] at place oldPlace
    have repeated : nameOf old ∈ (base.take i).map nameOf :=
      List.count_pos_iff.mp (earlier ▸ Nat.succ_pos k)
    rw [if_pos repeated, ← place, ← oldPlace, tail_entriesOf_merge]

/-- The entries behind the base are named by the names that it lacks. -/
theorem map_drop_merge (base overrides : List α) :
    ((merge nameOf base overrides).drop base.length).map nameOf =
      ((overrides.map nameOf).filter fun name => name ∉ base.map nameOf).eraseDups := by
  rw [List.map_drop, map_merge, List.drop_left' (List.length_map nameOf)]

theorem getLast?_of_mem_drop_merge
    (appended : entry ∈ (merge nameOf base overrides).drop base.length) :
    (entriesOf nameOf (nameOf entry) overrides).getLast? = some entry := by
  have named : nameOf entry ∈ ((merge nameOf base overrides).drop base.length).map nameOf :=
    List.mem_map_of_mem appended
  rw [map_drop_merge, List.mem_eraseDups, List.mem_filter, decide_eq_true_eq] at named
  obtain ⟨overriding, lacking⟩ := named
  have own : entry ∈ entriesOf nameOf (nameOf entry) (merge nameOf base overrides) :=
    List.mem_filter.mpr ⟨List.mem_of_mem_drop appended, decide_eq_true rfl⟩
  cases set : (entriesOf nameOf (nameOf entry) overrides).getLast? with
  | some last =>
    rw [entriesOf_merge_last set, entriesOf_eq_nil.mpr lacking, List.tail_nil,
      List.mem_singleton] at own
    rw [own]
  | none => exact absurd overriding (getLast?_entriesOf_eq_none.mp set)

theorem overridden_merge (nameOf : α → String) (base overrides : List α) :
    Overridden nameOf base overrides (merge nameOf base overrides) where
  replaced i old last there first set := by
    rw [getElem?_merge there, if_neg first, set, Option.some_or]
  kept i old there settled := by
    rw [getElem?_merge there]
    split
    · rfl
    · next first =>
      rw [getLast?_entriesOf_eq_none.mpr (settled.resolve_left first), Option.none_or]
  names := map_drop_merge base overrides
  added _ appended := getLast?_of_mem_drop_merge appended

namespace Overridden

/-- What stands in place of an entry of the base is known from the base and the overrides. -/
theorem at_place (overridden : Overridden nameOf base overrides merged)
    (there : base[i]? = some old) :
    merged[i]? = if nameOf old ∈ (base.take i).map nameOf then some old
      else (entriesOf nameOf (nameOf old) overrides).getLast?.or (some old) := by
  split
  · next repeated => exact overridden.kept i old there (.inl repeated)
  · next first =>
    cases set : (entriesOf nameOf (nameOf old) overrides).getLast? with
    | some last => exact overridden.replaced i old last there first set
    | none => exact overridden.kept i old there (.inr (getLast?_entriesOf_eq_none.mp set))

theorem map_some_drop (overridden : Overridden nameOf base overrides merged) :
    (merged.drop base.length).map some =
      ((overrides.map nameOf).filter fun name => name ∉ base.map nameOf).eraseDups.map
        fun name => (entriesOf nameOf name overrides).getLast? := by
  rw [← overridden.names, List.map_map]
  apply List.map_congr_left
  intro entry appended
  exact (overridden.added entry appended).symm

theorem unique {merged' : List α} (overridden : Overridden nameOf base overrides merged)
    (overridden' : Overridden nameOf base overrides merged') : merged = merged' := by
  have front : merged.take base.length = merged'.take base.length := by
    apply List.ext_getElem?
    intro i
    by_cases bound : i < base.length
    · have there := List.getElem?_eq_getElem bound
      rw [List.getElem?_take_of_lt bound, List.getElem?_take_of_lt bound,
        overridden.at_place there, overridden'.at_place there]
    · have beyond := Nat.not_lt.mp bound
      rw [List.getElem?_take_eq_none beyond, List.getElem?_take_eq_none beyond]
  have back : merged.drop base.length = merged'.drop base.length := by
    apply List.map_injective_iff.mpr (fun _ _ => Option.some.inj)
    rw [overridden.map_some_drop, overridden'.map_some_drop]
  rw [← List.take_append_drop base.length merged, front, back, List.take_append_drop]

end Overridden

theorem merge_eq_iff : merge nameOf base overrides = merged ↔
    Overridden nameOf base overrides merged := by
  constructor
  · rintro rfl
    exact overridden_merge nameOf base overrides
  · intro overridden
    exact (overridden_merge nameOf base overrides).unique overridden

/-- The environment of a build merged with that of a run is the one list in which the first variable
of each name gives way to the last override of this name, the others of the build stay, and each
name that only the run has follows once with its last variable, in the order in which the run has
these names first. The same holds of parameter values. -/
theorem merges_exact :
    (∀ base overrides merged : List EnvVar, mergeEnv base overrides = merged ↔
      Overridden EnvVar.name base overrides merged) ∧
    ∀ base overrides merged : List ParamValue, mergeParamValues base overrides = merged ↔
      Overridden ParamValue.name base overrides merged :=
  ⟨fun _ _ _ => merge_eq_iff, fun _ _ _ => merge_eq_iff⟩

/-- Both lists repeat names, and one override replaces an earlier one that was appended. -/
example : mergeParamValues [⟨"tag", "v1"⟩, ⟨"level", "3"⟩, ⟨"tag", "v2"⟩]
      [⟨"mode", "a"⟩, ⟨"tag", "v3"⟩, ⟨"target", "x"⟩, ⟨"mode", "b"⟩, ⟨"tag", "v4"⟩] =
    [⟨"tag", "v4"⟩, ⟨"level", "3"⟩, ⟨"tag", "v2"⟩, ⟨"mode", "b"⟩, ⟨"target", "x"⟩] := by
  decide

end BuildController
