/-! Finite maps whose entries stand in strictly increasing key order. The order is part of the
type, so two maps with the same bindings are equal and a listing needs no sorting. -/
namespace BuildController

/-- The laws that the order of the keys of a map has to satisfy. -/
class KeyOrder (κ : Type) [LT κ] : Prop where
  irrefl : ∀ a : κ, ¬a < a
  trans : ∀ {a b c : κ}, a < b → b < c → a < c
  connected : ∀ {a b : κ}, ¬a < b → ¬b < a → a = b

instance : KeyOrder String where
  irrefl := String.lt_irrefl
  trans := String.lt_trans
  connected h g := String.le_antisymm (String.not_lt.mp g) (String.not_lt.mp h)

/-- A map is the list of its entries, each key below all later ones. -/
structure OrderedMap (κ α : Type) [LT κ] where
  entries : List (κ × α)
  sorted : entries.Pairwise (fun a b => a.1 < b.1)

namespace OrderedMap

variable {κ α : Type} [LT κ]

theorem ext {m n : OrderedMap κ α} (h : m.entries = n.entries) : m = n := by
  cases m; cases n; cases h; rfl

instance [DecidableEq κ] [DecidableEq α] : DecidableEq (OrderedMap κ α) := fun m n =>
  if h : m.entries = n.entries then isTrue (ext h)
  else isFalse fun e => h (congrArg entries e)

def empty : OrderedMap κ α := ⟨[], .nil⟩

instance : Inhabited (OrderedMap κ α) := ⟨empty⟩

def isEmpty (m : OrderedMap κ α) : Bool := m.entries.isEmpty

def values (m : OrderedMap κ α) : List α := m.entries.map (·.2)

def get? [DecidableEq κ] (m : OrderedMap κ α) (k : κ) : Option α :=
  (m.entries.find? (fun e => e.1 = k)).map (·.2)

def contains [DecidableEq κ] (m : OrderedMap κ α) (k : κ) : Bool := (m.get? k).isSome

/-- Puts an entry at its place in a list of entries, replacing one with the same key. -/
def insertEntry [DecidableLT κ] (k : κ) (a : α) : List (κ × α) → List (κ × α)
  | [] => [(k, a)]
  | e :: rest =>
    if k < e.1 then (k, a) :: e :: rest
    else if e.1 < k then e :: insertEntry k a rest
    else (k, a) :: rest

theorem mem_insertEntry [DecidableLT κ] {k : κ} {a : α} {l : List (κ × α)} {e : κ × α}
    (h : e ∈ insertEntry k a l) : e = (k, a) ∨ e ∈ l := by
  induction l with
  | nil => simpa [insertEntry] using h
  | cons x rest ih =>
    simp only [insertEntry] at h
    split at h
    · simpa using h
    · split at h
      · rcases List.mem_cons.mp h with h | h
        · exact .inr (by simp [h])
        · exact (ih h).imp id (List.mem_cons_of_mem _)
      · exact (List.mem_cons.mp h).imp id (List.mem_cons_of_mem _)

theorem insertEntry_sorted [DecidableLT κ] [KeyOrder κ] (k : κ) (a : α) {l : List (κ × α)}
    (h : l.Pairwise (fun a b => a.1 < b.1)) :
    (insertEntry k a l).Pairwise (fun a b => a.1 < b.1) := by
  induction l with
  | nil => simp [insertEntry]
  | cons x rest ih =>
    obtain ⟨first, later⟩ := List.pairwise_cons.mp h
    simp only [insertEntry]
    split
    · next below =>
      refine List.pairwise_cons.mpr ⟨fun e he => ?_, h⟩
      rcases List.mem_cons.mp he with rfl | he
      · exact below
      · exact KeyOrder.trans below (first e he)
    · next notBelow =>
      split
      · next above =>
        refine List.pairwise_cons.mpr ⟨fun e he => ?_, ih later⟩
        rcases mem_insertEntry he with rfl | he
        · exact above
        · exact first e he
      · next notAbove =>
        have same : k = x.1 := KeyOrder.connected notBelow notAbove
        exact List.pairwise_cons.mpr ⟨fun e he => same ▸ first e he, later⟩

def insert [DecidableLT κ] [KeyOrder κ] (m : OrderedMap κ α) (k : κ) (a : α) : OrderedMap κ α :=
  ⟨insertEntry k a m.entries, insertEntry_sorted k a m.sorted⟩

def erase [DecidableEq κ] (m : OrderedMap κ α) (k : κ) : OrderedMap κ α :=
  ⟨m.entries.filter (fun e => e.1 ≠ k), m.sorted.filter _⟩

/-- Binds the keys of a list in turn, so that of several bindings of one key the last counts. -/
def ofList [DecidableLT κ] [KeyOrder κ] (l : List (κ × α)) : OrderedMap κ α :=
  l.foldl (fun m e => m.insert e.1 e.2) empty

end OrderedMap

end BuildController
