import Mathlib.Data.List.Sort
import BuildController.ControlPlane.Cluster

/-! The bindings of ordered maps, and the objects that a control plane holds under their own
names. A map is nothing but its bindings: maps that bind the same keys to the same values are
equal, and so are the entries that are picked from them. -/
namespace BuildController

/-- If the same is kept of two values, one is there if the other is. -/
theorem exists_of_map_eq {f : α → β} {x y : Option α} (same : x.map f = y.map f)
    (present : x = some a) : ∃ b, y = some b ∧ f b = f a := by
  rw [present, Option.map_some, eq_comm] at same
  exact Option.map_eq_some_iff.mp same

namespace OrderedMap

variable {κ α : Type} [LT κ] [DecidableEq κ] [KeyOrder κ] {m n : OrderedMap κ α}

theorem find?_of_mem {l : List (κ × α)} (sorted : l.Pairwise fun a b => a.1 < b.1) {k : κ} {a : α}
    (member : (k, a) ∈ l) : (l.find? fun e => e.1 = k) = some (k, a) := by
  induction l with
  | nil => cases member
  | cons e rest ih =>
    obtain ⟨first, later⟩ := List.pairwise_cons.mp sorted
    rcases List.mem_cons.mp member with rfl | member
    · simp
    · have different : e.1 ≠ k := by
        rintro rfl
        exact KeyOrder.irrefl _ (first (e.1, a) member)
      rw [List.find?_cons_of_neg (by simpa using different)]
      exact ih later member

theorem mem_entries {k : κ} {a : α} : (k, a) ∈ m.entries ↔ m.get? k = some a := by
  constructor
  · intro member
    rw [get?, find?_of_mem m.sorted member, Option.map_some]
  · intro bound
    obtain ⟨e, found, rfl⟩ := Option.map_eq_some_iff.mp bound
    have key : e.1 = k := by simpa using List.find?_some found
    rw [← key]
    exact List.mem_of_find?_eq_some found

omit [DecidableEq κ] in
/-- Lists in the strict order of a key are the same if they have the same members. -/
theorem eq_of_sorted {f : β → κ} {l l' : List β} (sorted : l.Pairwise fun a b => f a < f b)
    (sorted' : l'.Pairwise fun a b => f a < f b) (same : ∀ a, a ∈ l ↔ a ∈ l') : l = l' := by
  have : Std.Irrefl fun a b : β => f a < f b := ⟨fun a => KeyOrder.irrefl (f a)⟩
  have : Std.Antisymm fun a b : β => f a < f b :=
    ⟨fun a b below above => (KeyOrder.irrefl (f a) (KeyOrder.trans below above)).elim⟩
  exact List.Pairwise.eq_of_mem_iff (r := fun a b => f a < f b) sorted sorted' same

/-- Entries that are picked from two maps are the same if the maps agree on them. -/
theorem filter_entries_congr {p : κ × α → Bool}
    (agree : ∀ k a, p (k, a) → (m.get? k = some a ↔ n.get? k = some a)) :
    m.entries.filter p = n.entries.filter p := by
  refine eq_of_sorted (f := Prod.fst) (m.sorted.filter p) (n.sorted.filter p) fun e => ?_
  rw [List.mem_filter, List.mem_filter, and_congr_left_iff]
  intro picked
  rw [mem_entries, mem_entries]
  exact agree e.1 e.2 picked

theorem ext_get? (same : ∀ k, m.get? k = n.get? k) : m = n := by
  have entries := filter_entries_congr (m := m) (n := n) (p := fun _ => true)
    fun k a _ => by rw [same]
  exact ext (by simpa using entries)

/-- What is kept of the entries of two maps is the same if it is the same under every key. -/
theorem map_entries_congr {f : α → β} (same : ∀ k, (m.get? k).map f = (n.get? k).map f) :
    m.entries.map (fun e => (e.1, f e.2)) = n.entries.map fun e => (e.1, f e.2) := by
  have kept (m : OrderedMap κ α) (e : κ × β) :
      e ∈ m.entries.map (fun e => (e.1, f e.2)) ↔ (m.get? e.1).map f = some e.2 := by
    rw [List.mem_map, Option.map_eq_some_iff]
    constructor
    · rintro ⟨⟨k, a⟩, member, rfl⟩
      exact ⟨a, mem_entries.mp member, rfl⟩
    · rintro ⟨a, bound, held⟩
      exact ⟨(e.1, a), mem_entries.mpr bound, Prod.ext rfl held⟩
  refine eq_of_sorted (f := Prod.fst) ?_ ?_ fun e => ?_
  · exact List.pairwise_map.mpr m.sorted
  · exact List.pairwise_map.mpr n.sorted
  · rw [kept, kept, same]

section Insert

variable [DecidableLT κ]

theorem find?_insertEntry (k : κ) (a : α) (l : List (κ × α)) (other : κ) :
    ((insertEntry k a l).find? fun e => e.1 = other).map (·.2) =
      if other = k then some a else (l.find? fun e => e.1 = other).map (·.2) := by
  induction l with
  | nil => by_cases same : k = other <;> simp [insertEntry, same, eq_comm]
  | cons e rest ih =>
    simp only [insertEntry]
    split
    · by_cases same : other = k
      · simp [same]
      · rw [List.find?_cons_of_neg (by simpa [eq_comm] using same), if_neg same]
    · split
      · next below =>
        by_cases first : e.1 = other
        · have different : other ≠ k := by
            rintro rfl
            exact KeyOrder.irrefl _ (first ▸ below)
          simp [first, different]
        · rw [List.find?_cons_of_neg (by simpa using first), ih,
            List.find?_cons_of_neg (by simpa using first)]
      · next notAbove notBelow =>
        have key : k = e.1 := KeyOrder.connected notAbove notBelow
        by_cases same : other = k
        · simp [same]
        · have different : ¬e.1 = other := fun h => same (h.symm.trans key.symm)
          rw [List.find?_cons_of_neg (by simpa [eq_comm] using same), if_neg same,
            List.find?_cons_of_neg (by simpa using different)]

theorem get?_insert (m : OrderedMap κ α) (k : κ) (a : α) (other : κ) :
    (m.insert k a).get? other = if other = k then some a else m.get? other :=
  find?_insertEntry k a m.entries other

@[simp] theorem get?_insert_self (m : OrderedMap κ α) (k : κ) (a : α) :
    (m.insert k a).get? k = some a := by
  rw [get?_insert, if_pos rfl]

theorem eq_or_of_get?_insert {k key : κ} {a b : α}
    (bound : (m.insert k a).get? key = some b) : b = a ∨ m.get? key = some b := by
  rw [get?_insert] at bound
  split at bound
  · exact .inl (Option.some.inj bound).symm
  · exact .inr bound

/-- A map with one entry holds nothing else. -/
theorem eq_of_get?_insert_empty {k key : κ} {a b : α}
    (bound : ((empty : OrderedMap κ α).insert k a).get? key = some b) : b = a :=
  (eq_or_of_get?_insert bound).resolve_right nofun

theorem get?_insert_of_ne (m : OrderedMap κ α) {k : κ} (a : α) {other : κ} (different : other ≠ k) :
    (m.insert k a).get? other = m.get? other := by
  rw [get?_insert, if_neg different]

end Insert

end OrderedMap

namespace Cluster

theorem mem_inNamespace {objects : OrderedMap ObjectKey α} :
    a ∈ inNamespace ns objects ↔ ∃ name, objects.get? ⟨ns, name⟩ = some a := by
  simp only [inNamespace, List.mem_map, List.mem_filter, decide_eq_true_eq]
  constructor
  · rintro ⟨⟨⟨_, name⟩, _⟩, ⟨member, rfl⟩, rfl⟩
    exact ⟨name, OrderedMap.mem_entries.mp member⟩
  · rintro ⟨name, bound⟩
    exact ⟨(⟨ns, name⟩, a), ⟨OrderedMap.mem_entries.mpr bound, rfl⟩, rfl⟩

/-- What is held under its own key is listed in its own namespace. -/
theorem mem_inNamespace_iff {objects : OrderedMap ObjectKey α} {metadata : α → Metadata}
    (held : ∀ key object, objects.get? key = some object → (metadata object).key = key) :
    a ∈ inNamespace ns objects ↔
      (metadata a).namespaceName = ns ∧ objects.get? (metadata a).key = some a := by
  rw [mem_inNamespace]
  constructor
  · rintro ⟨name, bound⟩
    rw [held _ a bound]
    exact ⟨congrArg ObjectKey.ns (held _ a bound), bound⟩
  · rintro ⟨rfl, bound⟩
    exact ⟨(metadata a).name, bound⟩

theorem inNamespace_map_congr {objects others : OrderedMap ObjectKey α} {f : α → β}
    (same : ∀ k, (objects.get? k).map f = (others.get? k).map f) :
    (inNamespace ns objects).map f = (inNamespace ns others).map f := by
  have held (objects : OrderedMap ObjectKey α) : (inNamespace ns objects).map f =
      ((objects.entries.map fun e => (e.1, f e.2)).filter fun e => e.1.ns = ns).map (·.2) := by
    simp [inNamespace, List.filter_map, Function.comp_def]
  rw [held, held, OrderedMap.map_entries_congr same]

/-- A listing stands in the order of the names. -/
theorem inNamespace_sorted {objects : OrderedMap ObjectKey α} {metadata : α → Metadata}
    (held : ∀ key object, objects.get? key = some object → (metadata object).key = key) :
    (inNamespace ns objects).Pairwise fun a b => (metadata a).key < (metadata b).key := by
  refine List.pairwise_map.mpr ((objects.sorted.filter _).imp_of_mem ?_)
  intro e f first second below
  have stored {e : ObjectKey × α} (member : e ∈ objects.entries.filter fun e => e.1.ns = ns) :
      (metadata e.2).key = e.1 :=
    held e.1 e.2 (OrderedMap.mem_entries.mp (List.mem_filter.mp member).1)
  rw [stored first, stored second]
  exact below

end Cluster

end BuildController
