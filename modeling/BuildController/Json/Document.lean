import BuildController.Json.Tree

/-! Documents that are kept as a whole. Unlike a value that is only looked through, every part of
such a document is read: no string is ill-formed, every number lies within the range of binary64,
arrays and objects nest less than 128 deep, and of several members with one name the last counts. -/
namespace BuildController.Json

/-- The magnitudes from here on round to no finite binary64 value. -/
def magnitudeLimit : Nat := 1 <<< 1024 - 1 <<< 970

/-- Does the number `digits · 10 ^ exponent` stay below the limit? The number of its digits decides
unless it is close to the limit. -/
def withinRange (digits : Nat) (exponent : Int) : Bool :=
  let places : Int := (Nat.toDigits 10 digits).length + exponent
  if digits = 0 then true
  else if places ≤ 308 then true
  else if 310 ≤ places then false
  else if 0 ≤ exponent then digits * Nat.pow 10 exponent.toNat < magnitudeLimit
  else digits < magnitudeLimit * Nat.pow 10 (-exponent).toNat

def Number.finite : Number → Bool
  | .integer value => withinRange value.natAbs 0
  | .fraction _ digits exponent => withinRange digits exponent

/-- Drops each member that a later one of the same name replaces. -/
def lastMembers : List (String × Json) → List (String × Json)
  | [] => []
  | m :: rest => if rest.any (fun n => n.1 = m.1) then lastMembers rest else m :: lastMembers rest

mutual

/-- The value with every part read; `depth` is how many more levels may nest. -/
def keep? (depth : Nat) : Json → Option Json
  | illFormed => none
  | number value => if Number.finite value then some (number value) else none
  | array items =>
    match depth with
    | 0 => none
    | depth + 1 => (keepItems? depth items).map array
  | object members =>
    match depth with
    | 0 => none
    | depth + 1 => (keepMembers? depth members).map fun kept => object (lastMembers kept)
  | value => some value

def keepItems? (depth : Nat) : List Json → Option (List Json)
  | [] => some []
  | item :: rest => do return (← keep? depth item) :: (← keepItems? depth rest)

def keepMembers? (depth : Nat) : List (String × Json) → Option (List (String × Json))
  | [] => some []
  | (name, value) :: rest => do
    return (name, ← keep? depth value) :: (← keepMembers? depth rest)

end

/-- Reads a document of which every part is kept. -/
def document? (text : String) : Option Json := (parse? text).bind (keep? 127)

end BuildController.Json
