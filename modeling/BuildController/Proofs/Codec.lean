import BuildController.Json.Wire
import BuildController.Proofs.Rendering
import BuildController.Proofs.Timestamps

/-! The laws of wire forms. A record keeps the laws if its fields do and have names of their own:
then each field finds what was written for it among the members, or its missing value where nothing
was. The one thing that a text can hide is a leap second within a minute, so the laws follow the
times of a value. -/
namespace BuildController

open Json (WellFormed)

/-- A value is read as another: the times in it are read from their texts, and nothing else
changes. -/
structure ReadsAs {α : Type} (times : α → List Instant) (a b : α) : Prop where
  asRead : times b = (times a).map Instant.asRead
  same : (∀ t ∈ times a, t.Regular) → b = a

theorem ReadsAs.refl {α : Type} {a : α} {times : α → List Instant}
    (regular : ∀ t ∈ times a, t.Regular) : ReadsAs times a a where
  asRead := by
    have fixed : (times a).map Instant.asRead = (times a).map id :=
      List.map_congr_left fun t member => Instant.asRead_of_regular (regular t member)
    rw [fixed, List.map_id]
  same _ := rfl

@[simp]
theorem flatMap_timeless (items : List α) : items.flatMap (fun _ => ([] : List Instant)) = [] :=
  List.flatMap_eq_nil_iff.mpr fun _ _ => rfl

/-- A wire form that loses nothing but leap seconds within a minute, given the times in a value:
what is written for a value has a text, is never `null`, as an absent value would be written, and is
read as a value for which the same is written. -/
class LawfulWire (α : Type) [Wire α] (times : outParam (α → List Instant)) : Prop where
  decode_encode (a : α) :
    ∃ b, Wire.decode (Wire.encode a) = some b ∧ Wire.encode b = Wire.encode a ∧ ReadsAs times a b
  encode_wellFormed (a : α) : WellFormed (Wire.encode a)
  encode_ne_null (a : α) : Wire.encode a ≠ .null

export LawfulWire (decode_encode encode_wellFormed encode_ne_null)

namespace LawfulWire

/-- A wire form of values without times loses nothing at all. -/
theorem of_timeless [Wire α] (decode_encode : ∀ a : α, Wire.decode (Wire.encode a) = some a)
    (encode_wellFormed : ∀ a : α, WellFormed (Wire.encode a))
    (encode_ne_null : ∀ a : α, Wire.encode a ≠ .null) : LawfulWire α fun _ => [] where
  decode_encode a := ⟨a, decode_encode a, rfl, .refl (by simp)⟩
  encode_wellFormed := encode_wellFormed
  encode_ne_null := encode_ne_null

variable [Wire α] {times : α → List Instant} [LawfulWire α times]

theorem decode_encode_of_regular {a : α} (regular : ∀ t ∈ times a, t.Regular) :
    Wire.decode (Wire.encode a) = some a := by
  obtain ⟨b, read, _, readsAs⟩ := decode_encode a
  rw [read, readsAs.same regular]

/-- A value is read again exactly if none of its leap seconds is hidden by the text. -/
theorem decode_encode_iff (a : α) :
    Wire.decode (Wire.encode a) = some a ↔ ∀ t ∈ times a, t.Regular := by
  refine ⟨fun read t member => ?_, decode_encode_of_regular⟩
  obtain ⟨b, read', _, readsAs⟩ := decode_encode a
  rw [read] at read'
  cases read'
  have fixed : (times a).map Instant.asRead = (times a).map id := by
    rw [List.map_id, ← readsAs.asRead]
  exact Instant.asRead_eq_iff.mp (List.map_inj_left.mp fixed t member)

end LawfulWire

namespace OrderedMap

variable {κ α : Type} [LT κ] [DecidableLT κ] [KeyOrder κ]

theorem insertEntry_last {entries : List (κ × α)} (below : ∀ e ∈ entries, e.1 < k) :
    insertEntry k a entries = entries ++ [(k, a)] := by
  induction entries with
  | nil => rfl
  | cons e rest ih =>
    have first : e.1 < k := below e List.mem_cons_self
    have notAbove : ¬k < e.1 := fun above => KeyOrder.irrefl _ (KeyOrder.trans first above)
    simp only [insertEntry, notAbove, if_false, first, if_true, List.cons_append,
      ih fun e member => below e (List.mem_cons_of_mem _ member)]

/-- Binding the entries of a map in turn gives the map: each one goes to the end. -/
theorem ofList_entries (m : OrderedMap κ α) : ofList m.entries = m := by
  have appended (later : List (κ × α)) : ∀ before : OrderedMap κ α,
      (before.entries ++ later).Pairwise (fun a b => a.1 < b.1) →
      (later.foldl (fun m e => m.insert e.1 e.2) before).entries = before.entries ++ later := by
    induction later with
    | nil => intro before _; simp
    | cons e rest ih =>
      intro before sorted
      have below : ∀ d ∈ before.entries, d.1 < e.1 := fun d member =>
        (List.pairwise_append.mp sorted).2.2 d member e List.mem_cons_self
      have inserted : (before.insert e.1 e.2).entries = before.entries ++ [e] :=
        insertEntry_last below
      rw [List.foldl_cons, ih, inserted, List.append_assoc, List.singleton_append]
      rwa [inserted, List.append_assoc, List.singleton_append]
  exact ext (appended m.entries empty m.sorted)

end OrderedMap

namespace Wire

instance : LawfulWire String fun _ => [] :=
  .of_timeless (fun _ => rfl) (fun _ => trivial) fun _ same => nomatch same

instance : LawfulWire Bool fun _ => [] :=
  .of_timeless (fun _ => rfl) (fun _ => trivial) fun _ same => nomatch same

theorem integerBetween_int (above : low ≤ v) (below : v ≤ high) :
    integerBetween low high (.int v) = some v := by
  simp [integerBetween, Json.int, Json.integer?, above, below]

instance : LawfulWire UInt64 fun _ => [] := by
  refine .of_timeless (fun n => ?_) (fun _ => trivial) fun _ same => nomatch same
  have bound : (n.toNat : Int) ≤ .ofNat (UInt64.size - 1) := by
    have := n.toNat_lt_size
    simp only [Int.ofNat_eq_natCast]
    omega
  change (integerBetween _ _ (.int n.toNat)).map _ = some n
  rw [integerBetween_int (Int.natCast_nonneg _) bound]
  simp

instance : LawfulWire Int64 fun _ => [] := by
  refine .of_timeless (fun n => ?_) (fun _ => trivial) fun _ same => nomatch same
  change (integerBetween _ _ (.int n.toInt)).map _ = some n
  rw [integerBetween_int n.minValue_le_toInt n.toInt_le]
  simp

instance : LawfulWire Int32 fun _ => [] := by
  refine .of_timeless (fun n => ?_) (fun _ => trivial) fun _ same => nomatch same
  change (integerBetween _ _ (.int n.toInt)).map _ = some n
  rw [integerBetween_int n.minValue_le_toInt n.toInt_le]
  simp

instance : LawfulWire Instant fun t => [t] where
  decode_encode t := by
    refine ⟨t.asRead, ?_, ?_, ⟨rfl, fun regular => ?_⟩⟩
    · simp only [encode, decode, Json.string?, Option.bind_some, Instant.ofText?_toText]
    · simp only [encode, Instant.toText_asRead]
    · exact Instant.asRead_of_regular (regular t List.mem_cons_self)
  encode_wellFormed _ := trivial
  encode_ne_null _ same := nomatch same

/-- The names of the values need only be told apart. -/
theorem lawful_named {name : β → String} {ofName? : String → Option β}
    (known : ∀ b, ofName? (name b) = some b) : @LawfulWire β (named name ofName?) fun _ => [] :=
  letI := named name ofName?
  .of_timeless known (fun _ => trivial) fun _ same => nomatch same

variable [Wire α] {times : α → List Instant} [LawfulWire α times]

theorem mapM_decode_encode (items : List α) :
    ∃ read : List α, (items.map encode).mapM decode = some read ∧
      read.map encode = items.map encode ∧ ReadsAs (List.flatMap times) items read := by
  induction items with
  | nil => exact ⟨[], rfl, rfl, .refl (by simp)⟩
  | cons a rest ih =>
    obtain ⟨b, first, again, readsAs⟩ := decode_encode a
    obtain ⟨read, later, rewritten, others⟩ := ih
    refine ⟨b :: read, by simp [first, later], by simp [again, rewritten], ⟨?_, fun regular => ?_⟩⟩
    · simp only [List.flatMap_cons, List.map_append, readsAs.asRead, others.asRead]
    · simp only [List.flatMap_cons, List.mem_append] at regular
      rw [readsAs.same fun t member => regular t (.inl member),
        others.same fun t member => regular t (.inr member)]

instance : LawfulWire (List α) (List.flatMap times) where
  decode_encode items := by
    obtain ⟨read, decoded, rewritten, readsAs⟩ := mapM_decode_encode items
    exact ⟨read, decoded, congrArg Json.array rewritten, readsAs⟩
  encode_wellFormed items := Json.wellFormedItems_iff.mpr fun item member => by
    obtain ⟨a, _, rfl⟩ := List.mem_map.mp member
    exact encode_wellFormed a
  encode_ne_null _ same := nomatch same

theorem mapM_decode_members [LawfulWire α fun _ => []] (entries : List (String × α)) :
    (entries.map fun e => (e.1, encode e.2)).mapM (fun m => (decode m.2).map fun a => (m.1, a))
      = some entries := by
  induction entries with
  | nil => rfl
  | cons e rest ih =>
    have read : decode (encode e.2) = some e.2 := LawfulWire.decode_encode_of_regular (by simp)
    simp [read, ih]

instance [LawfulWire α fun _ => []] : LawfulWire (OrderedMap String α) fun _ => [] := by
  refine .of_timeless (fun m => ?_) (fun m => ?_) fun _ same => nomatch same
  · change Option.map _ (List.mapM _ (m.entries.map _)) = some m
    rw [mapM_decode_members, Option.map_some, OrderedMap.ofList_entries]
  · refine Json.wellFormedMembers_iff.mpr fun e member => ?_
    obtain ⟨e, _, rfl⟩ := List.mem_map.mp member
    exact encode_wellFormed e.2

end Wire

/-- A field that gives back what was written for it, as its times are read, or was left out. -/
class Field.Lawful (f : Field α) (times : outParam (α → List Instant)) : Prop where
  read_write : f.write a = some value →
    ∃ b, f.read value = some b ∧ f.write b = some value ∧ ReadsAs times a b
  write_wellFormed : f.write a = some value → WellFormed value
  missing_skipped : f.write a = none → f.missing = some a ∧ times a = []

namespace Field

variable [Wire α] {times : α → List Instant} [LawfulWire α times] {name : String}

theorem lawful_always (missing : Option α) :
    (⟨name, fun a => some (Wire.encode a), Wire.decode, missing⟩ : Field α).Lawful times where
  read_write {a value} written := by
    cases written
    obtain ⟨b, read, rewritten, readsAs⟩ := decode_encode a
    exact ⟨b, read, congrArg some rewritten, readsAs⟩
  write_wellFormed {a _} written := by cases written; exact encode_wellFormed a
  missing_skipped skipped := nomatch skipped

instance : (required name : Field α).Lawful times := lawful_always none

instance {default : α} : (withDefault name default).Lawful times := lawful_always (some default)

instance : (optional name : Field (Option α)).Lawful fun a => a.toList.flatMap times where
  read_write written := by
    obtain ⟨a, rfl, rfl⟩ := Option.map_eq_some_iff.mp written
    obtain ⟨b, read, rewritten, readsAs⟩ := decode_encode a
    refine ⟨some b, ?_, congrArg some rewritten, ⟨?_, fun regular => ?_⟩⟩
    · have notNull := encode_ne_null a
      change Wire.decode (Wire.encode a) = some (some b)
      cases spelled : Wire.encode a <;> simp_all [Wire.decode]
    · simp [readsAs.asRead]
    · rw [readsAs.same (by simpa using regular)]
  write_wellFormed written := by
    obtain ⟨a, rfl, rfl⟩ := Option.map_eq_some_iff.mp written
    exact encode_wellFormed a
  missing_skipped skipped := by
    rw [Option.map_eq_none_iff.mp skipped]
    exact ⟨rfl, rfl⟩

/-- A field that is left out for one value only, which has no times and which it has if it is
missing. Whether it is left out can be told from what would be written. -/
theorem lawful_unless (skips : α → Bool) {default : α} (only : ∀ a, skips a = true → a = default)
    (empty : times default = [])
    (told : ∀ a b, Wire.encode b = Wire.encode a → skips b = skips a) :
    (⟨name, fun a => if skips a then none else some (Wire.encode a), Wire.decode, some default⟩ :
      Field α).Lawful times where
  read_write {a value} written := by
    simp only [Option.ite_none_left_eq_some, Option.some.injEq] at written
    obtain ⟨kept, rfl⟩ := written
    obtain ⟨b, read, rewritten, readsAs⟩ := decode_encode a
    refine ⟨b, read, ?_, readsAs⟩
    simp only [told a b rewritten, kept, rewritten]
    rfl
  write_wellFormed {a value} written := by
    simp only [Option.ite_none_left_eq_some, Option.some.injEq] at written
    rw [← written.2]
    exact encode_wellFormed a
  missing_skipped {a} skipped := by
    by_cases skip : skips a = true
    · rw [only a skip]
      exact ⟨rfl, empty⟩
    · simp [skip] at skipped

instance : (list name : Field (List α)).Lawful (List.flatMap times) :=
  lawful_unless List.isEmpty (fun _ => List.isEmpty_iff.mp) rfl fun a b same => by
    simpa only [List.isEmpty_map] using congrArg List.isEmpty (Json.array.inj same)

instance [LawfulWire α fun _ => []] : (map name : Field (OrderedMap String α)).Lawful fun _ => [] :=
  lawful_unless OrderedMap.isEmpty (fun _ none => OrderedMap.ext (List.isEmpty_iff.mp none)) rfl
    fun a b same => by
      simpa only [OrderedMap.isEmpty, List.isEmpty_map] using
        congrArg List.isEmpty (Json.object.inj same)

instance : (text name).Lawful fun _ => [] where
  read_write {a value} written := by
    refine ⟨a, ?_, written, .refl (by simp)⟩
    simp only [text, Option.ite_none_left_eq_some, Option.some.injEq] at written
    rw [← written.2]
    rfl
  write_wellFormed {a value} written := by
    simp only [text, Option.ite_none_left_eq_some, Option.some.injEq] at written
    rw [← written.2]
    trivial
  missing_skipped {a} skipped := by
    by_cases empty : a = ""
    · rw [empty]
      exact ⟨rfl, rfl⟩
    · simp [text, empty] at skipped

end Field

namespace Fields

theorem ofMembers_cons_other {fields : Fields τ} (other : name ∉ fields.names) :
    fields.ofMembers ((name, value) :: members) = fields.ofMembers members := by
  induction fields with
  | nil => rfl
  | cons f rest ih =>
    obtain ⟨different, other⟩ := not_or.mp (List.mem_cons.not.mp other)
    have same : f.ofMembers ((name, value) :: members) = f.ofMembers members := by
      simp [Field.ofMembers, Json.valuesOf, different]
    simp only [ofMembers, same, ih other]

theorem valuesOf_toMembers_other {fields : Fields τ} (other : name ∉ fields.names) (values : τ) :
    Json.valuesOf (fields.toMembers values) name = [] := by
  induction fields with
  | nil => rfl
  | cons f rest ih =>
    obtain ⟨different, other⟩ := not_or.mp (List.mem_cons.not.mp other)
    obtain ⟨a, values⟩ := values
    have later := ih other values
    simp only [Json.valuesOf] at later
    simp only [toMembers]
    split
    · simp [Json.valuesOf, Ne.symm different, later]
    · exact later

/-- Fields whose values are all read back from the members that are written for them, as their times
are read, if no two fields have one name. -/
class Lawful (fields : Fields τ) (times : outParam (τ → List Instant)) : Prop where
  ofMembers_toMembers : fields.names.Nodup → ∀ values,
    ∃ read, fields.ofMembers (fields.toMembers values) = some read ∧
      fields.toMembers read = fields.toMembers values ∧ ReadsAs times values read
  toMembers_wellFormed : ∀ values, Json.WellFormedMembers (fields.toMembers values)

instance : nil.Lawful fun _ => [] := ⟨fun _ _ => ⟨(), rfl, rfl, .refl (by simp)⟩, fun _ => trivial⟩

/-- The first field finds what was written for it, or its missing value. -/
theorem ofMembers_first {f : Field α} {times : α → List Instant} [f.Lawful times]
    (absent : Json.valuesOf members f.name = []) (a : α) :
    ∃ b, f.write b = f.write a ∧ ReadsAs times a b ∧
      f.ofMembers ((f.write a).toList.map (fun value => (f.name, value)) ++ members) = some b := by
  cases written : f.write a with
  | none =>
    obtain ⟨missing, empty⟩ := Field.Lawful.missing_skipped written
    refine ⟨a, written, .refl (by simp [empty]), ?_⟩
    simp only [Option.toList_none, List.map_nil, List.nil_append, Field.ofMembers, absent, missing]
  | some value =>
    obtain ⟨b, read, rewritten, readsAs⟩ := Field.Lawful.read_write written
    refine ⟨b, rewritten, readsAs, ?_⟩
    have found : Json.valuesOf ((f.name, value) :: members) f.name = [value] := by
      simp only [Json.valuesOf] at absent
      simp [Json.valuesOf, absent]
    simp only [Option.toList_some, List.map_cons, List.map_nil, List.singleton_append,
      Field.ofMembers, found, read]

theorem toMembers_cons {f : Field α} {rest : Fields β} :
    (cons f rest).toMembers (a, values) =
      (f.write a).toList.map (fun value => (f.name, value)) ++ rest.toMembers values := by
  rw [toMembers]
  cases f.write a <;> rfl

instance {f : Field α} {rest : Fields β} {times : α → List Instant} {later : β → List Instant}
    [f.Lawful times] [rest.Lawful later] :
    (cons f rest).Lawful fun values => times values.1 ++ later values.2 where
  ofMembers_toMembers distinct := by
    rintro ⟨a, values⟩
    obtain ⟨own, distinct⟩ := List.nodup_cons.mp distinct
    obtain ⟨b, again, readsAs, first⟩ :=
      ofMembers_first (f := f) (valuesOf_toMembers_other own values) a
    obtain ⟨read, found, rewritten, others⟩ := Lawful.ofMembers_toMembers distinct values
    refine ⟨(b, read), ?_, ?_, ⟨?_, fun regular => ?_⟩⟩
    · have skipped : rest.ofMembers ((f.write a).toList.map (fun value => (f.name, value))
          ++ rest.toMembers values) = rest.ofMembers (rest.toMembers values) := by
        cases f.write a with
        | none => rfl
        | some value => exact ofMembers_cons_other own
      rw [toMembers_cons, ofMembers, first, skipped, found]
      rfl
    · rw [toMembers_cons, toMembers_cons, again, rewritten]
    · simp only [List.map_append, readsAs.asRead, others.asRead]
    · simp only [List.mem_append] at regular
      rw [readsAs.same fun t member => regular t (.inl member),
        others.same fun t member => regular t (.inr member)]
  toMembers_wellFormed := by
    rintro ⟨a, values⟩
    have later : Json.WellFormedMembers (rest.toMembers values) :=
      Lawful.toMembers_wellFormed values
    simp only [toMembers]
    split
    · next value written => exact ⟨Field.Lawful.write_wellFormed written, later⟩
    · exact later

/-- A record keeps the laws if its fields do, and putting together and taking apart undo each
other. Its times are those of its fields. -/
theorem lawful_wire {fields : Fields τ} {within : τ → List Instant} [fields.Lawful within]
    {toValues : σ → τ} {ofValues : τ → σ} {times : σ → List Instant}
    (distinct : fields.names.Nodup) (contains : ∀ s, times s = within (toValues s) := by simp)
    (whole : ∀ s, ofValues (toValues s) = s := by exact fun _ => rfl)
    (apart : ∀ values, toValues (ofValues values) = values := by exact fun _ => rfl) :
    @LawfulWire σ (fields.wire toValues ofValues) times :=
  letI := fields.wire toValues ofValues
  { decode_encode s := by
      obtain ⟨read, found, rewritten, readsAs⟩ :=
        Lawful.ofMembers_toMembers distinct (toValues s)
      refine ⟨ofValues read, congrArg (Option.map ofValues) found, ?_, ⟨?_, fun regular => ?_⟩⟩
      · exact congrArg Json.object ((congrArg fields.toMembers (apart read)).trans rewritten)
      · rw [contains, contains, apart, readsAs.asRead]
      · rw [readsAs.same (contains s ▸ regular), whole]
    encode_wellFormed s := Lawful.toMembers_wellFormed (toValues s)
    encode_ne_null _ same := nomatch same }

end Fields

end BuildController
