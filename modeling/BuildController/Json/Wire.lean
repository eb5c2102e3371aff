import BuildController.Json.Basic
import BuildController.OrderedMap

/-! The wire form of a type: how its values are written as JSON and which JSON is read back. The
form of a record is a list of fields, from which writing and reading both follow: a record is
written as an object with its fields in order, and read from an object, in which other members are
passed over and no field may occur twice, or from an array of the fields in order. -/
namespace BuildController

class Wire (α : Type) where
  encode : α → Json
  decode : Json → Option α

namespace Wire

instance : Wire String where
  encode := .string
  decode := Json.string?

instance : Wire Bool where
  encode := .bool
  decode
    | .bool value => some value
    | _ => none

def integerBetween (low high : Int) (value : Json) : Option Int :=
  value.integer?.filter fun v => low ≤ v && v ≤ high

instance : Wire UInt64 where
  encode n := .int n.toNat
  decode value := (integerBetween 0 (.ofNat (UInt64.size - 1)) value).map fun v => UInt64.ofNat v.toNat

instance : Wire Int64 where
  encode n := .int n.toInt
  decode value := (integerBetween Int64.minValue.toInt Int64.maxValue.toInt value).map Int64.ofInt

instance : Wire Int32 where
  encode n := .int n.toInt
  decode value := (integerBetween Int32.minValue.toInt Int32.maxValue.toInt value).map Int32.ofInt

/-- An absent value is written as `null`. -/
instance [Wire α] : Wire (Option α) where
  encode
    | some a => encode a
    | none => .null
  decode
    | .null => some none
    | value => (decode value).map some

instance [Wire α] : Wire (List α) where
  encode items := .array (items.map encode)
  decode
    | .array items => items.mapM decode
    | _ => none

/-- A map is an object; of several members with one name the last counts. -/
instance [Wire α] : Wire (OrderedMap String α) where
  encode m := .object (m.entries.map fun e => (e.1, encode e.2))
  decode
    | .object members =>
      (members.mapM fun m => (decode m.2).map fun a => (m.1, a)).map OrderedMap.ofList
    | _ => none

/-- The wire form of a type whose values have names. A value is written as its name, and read from
its name or from an object whose only member has that name and the value `null`. -/
abbrev named (name : α → String) (ofName? : String → Option α) : Wire α where
  encode a := .string (name a)
  decode
    | .string text => ofName? text
    | .object [(text, .null)] => ofName? text
    | _ => none

end Wire

/-- A field of a record: its name, what is written for a value (if anything), how a value is read,
and the value that a missing field has (if it may be missing). -/
structure Field (α : Type) where
  name : String
  write : α → Option Json
  read : Json → Option α
  missing : Option α

namespace Field

variable [Wire α]

def required (name : String) : Field α :=
  ⟨name, fun a => some (Wire.encode a), Wire.decode, none⟩

/-- A field that is always written and may be missing. -/
def withDefault (name : String) (default : α) : Field α :=
  ⟨name, fun a => some (Wire.encode a), Wire.decode, some default⟩

/-- A field that is left out for an absent value. -/
def optional (name : String) : Field (Option α) :=
  ⟨name, fun a => a.map Wire.encode, Wire.decode, some none⟩

/-- A field that is left out for an empty list. -/
def list (name : String) : Field (List α) :=
  ⟨name, fun a => if a.isEmpty then none else some (Wire.encode a), Wire.decode, some []⟩

/-- A field that is left out for an empty map. -/
def map (name : String) : Field (OrderedMap String α) :=
  ⟨name, fun a => if a.isEmpty then none else some (Wire.encode a), Wire.decode, some .empty⟩

/-- A field that is left out for an empty text. -/
def text (name : String) : Field String :=
  ⟨name, fun a => if a = "" then none else some (Wire.encode a), Wire.decode, some ""⟩

def ofMembers {α : Type} (f : Field α) (members : List (String × Json)) : Option α :=
  match Json.valuesOf members f.name with
  | [] => f.missing
  | [value] => f.read value
  | _ => none

end Field

/-- The fields of a record in the order of its declaration. The values of all fields form a tuple
that ends in the unit. -/
inductive Fields : Type → Type 1
  | nil : Fields Unit
  | cons {α β : Type} (first : Field α) (rest : Fields β) : Fields (α × β)

namespace Fields

def names : Fields τ → List String
  | nil => []
  | cons f rest => f.name :: rest.names

def toMembers : Fields τ → τ → List (String × Json)
  | nil, _ => []
  | cons f rest, (a, values) =>
    match f.write a with
    | some value => (f.name, value) :: rest.toMembers values
    | none => rest.toMembers values

def ofMembers (members : List (String × Json)) : Fields τ → Option τ
  | nil => some ()
  | cons f rest => do return (← f.ofMembers members, ← rest.ofMembers members)

/-- Reads all fields from the items of an array. Only the last fields can be missing. -/
def ofItems : Fields τ → List Json → Option τ
  | nil, [] => some ()
  | nil, _ :: _ => none
  | cons f rest, [] => do return (← f.missing, ← rest.ofItems [])
  | cons f rest, item :: items => do return (← f.read item, ← rest.ofItems items)

/-- The wire form of a record with these fields, given how it is taken apart and put together. -/
abbrev wire (fields : Fields τ) (toValues : σ → τ) (ofValues : τ → σ) : Wire σ where
  encode s := .object (fields.toMembers (toValues s))
  decode
    | .object members => (fields.ofMembers members).map ofValues
    | .array items => (fields.ofItems items).map ofValues
    | _ => none

end Fields

end BuildController
