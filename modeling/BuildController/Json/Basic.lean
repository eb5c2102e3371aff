/-! JSON values. Members of an object stay in the order of the text, repeated names included, and
an integer is told apart from a number that is written with a fraction or an exponent: which of
the two a number is decides whether a field of a resource takes it. -/
namespace BuildController

/-- A number literal. `fraction negative digits exponent` is the value `±digits · 10 ^ exponent` of
every literal that has a fraction or an exponent, and of `-0`, which is not an integer. -/
inductive Number
  | integer (value : Int)
  | fraction (negative : Bool) (digits : Nat) (exponent : Int)
  deriving DecidableEq, Repr

/-- A JSON value. A string that names half of a surrogate pair has no text: it is `illFormed`, and
so is an object with such a name. An ill-formed value can be skipped, but never read. -/
inductive Json
  | null
  | bool (value : Bool)
  | number (value : Number)
  | string (text : String)
  | array (items : List Json)
  | object (members : List (String × Json))
  | illFormed
  deriving Repr

namespace Json

instance : Inhabited Json := ⟨null⟩

def int (value : Int) : Json := number (.integer value)

/-- The values of all members with the given name, in the order of the text. -/
def valuesOf (members : List (String × Json)) (name : String) : List Json :=
  (members.filter (fun m => m.1 = name)).map (·.2)

/-- The member of an object with the given name; nothing for a value that is no object. -/
def member? (name : String) : Json → Option Json
  | object members => (valuesOf members name).head?
  | _ => none

def string? : Json → Option String
  | string text => some text
  | _ => none

def array? : Json → Option (List Json)
  | array items => some items
  | _ => none

def integer? : Json → Option Int
  | number (.integer value) => some value
  | _ => none

end Json

end BuildController
