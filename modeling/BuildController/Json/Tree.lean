import BuildController.Json.Token

/-! From tokens to a JSON value. The builder is a left fold over the tokens with the open arrays
and objects on a stack, so nesting has no limit. -/
namespace BuildController.Json

/-- An open array with the items before the one under way, or an open object with the members
before the one under way and its name; both stand last first. A name without text makes the whole
object ill-formed. -/
inductive Frame
  | items (before : List Json)
  | member (before : List (Option String × Json)) (name : Option String)

/-- What may come next: a value, a value or the end of an empty array, a name (or the end of an
empty object), a colon, or whatever may follow a value. -/
inductive Expects
  | value
  | item
  | name (before : List (Option String × Json))
  | colon (before : List (Option String × Json)) (name : Option String)
  | follow (value : Json)

/-- The object with the given members, last first; ill-formed if a name is. -/
def ofMembers (members : List (Option String × Json)) : Json :=
  match members.reverse.mapM fun m => m.1.map fun name => (name, m.2) with
  | some named => object named
  | none => illFormed

def ofText? : Option String → Json
  | some text => string text
  | none => illFormed

abbrev Builder := List Frame × Expects

def Builder.value (stack : List Frame) : Token → Option Builder
  | .scalar value => some (stack, .follow value)
  | .string text => some (stack, .follow (ofText? text))
  | .openArray => some (stack, .item)
  | .openObject => some (stack, .name [])
  | _ => none

def Builder.step (state : Builder) (token : Token) : Option Builder :=
  match state with
  | (stack, .value) => Builder.value stack token
  | (stack, .item) =>
    match token with
    | .closeArray => some (stack, .follow (array []))
    | _ => Builder.value (.items [] :: stack) token
  | (stack, .name before) =>
    match token, before with
    | .string name, _ => some (stack, .colon before name)
    | .closeObject, [] => some (stack, .follow (object []))
    | _, _ => none
  | (stack, .colon before name) =>
    match token with
    | .colon => some (.member before name :: stack, .value)
    | _ => none
  | (.items before :: stack, .follow value) =>
    match token with
    | .comma => some (.items (value :: before) :: stack, .value)
    | .closeArray => some (stack, .follow (array (value :: before).reverse))
    | _ => none
  | (.member before name :: stack, .follow value) =>
    match token with
    | .comma => some (stack, .name ((name, value) :: before))
    | .closeObject => some (stack, .follow (ofMembers ((name, value) :: before)))
    | _ => none
  | ([], .follow _) => none

def ofTokens? (tokens : List Token) : Option Json :=
  match tokens.foldlM Builder.step ([], .value) with
  | some ([], .follow value) => some value
  | _ => none

/-- Reads a JSON text. Strings that are ill-formed and numbers of any size are accepted here: a
value that nobody reads need only be lexically right. -/
def parse? (text : String) : Option Json := (tokens? text.toList).bind ofTokens?

end BuildController.Json
