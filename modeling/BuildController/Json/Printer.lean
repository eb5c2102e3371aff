import BuildController.Json.Basic
import BuildController.Text.Numeral

/-! The text of a JSON value, without blanks. A string is written with the short escapes where
there are any, other control characters as `\u00xx`, and everything else as it stands. -/
namespace BuildController.Json

def escape (c : Char) : List Char :=
  if c = '\x22' then ['\\', '\x22']
  else if c = '\\' then ['\\', '\\']
  else if c = '\x08' then ['\\', 'b']
  else if c = '\x0c' then ['\\', 'f']
  else if c = '\n' then ['\\', 'n']
  else if c = '\r' then ['\\', 'r']
  else if c = '\t' then ['\\', 't']
  else if c.toNat < 0x20 then ['\\', 'u'] ++ Text.paddedHex 4 c.toNat
  else [c]

def quote (s : String) : List Char := '\x22' :: (s.toList.flatMap escape ++ ['\x22'])

/-- The digits of an integer, after a minus sign if it is negative. -/
def spellInt : Int → List Char
  | .ofNat n => Nat.toDigits 10 n
  | .negSucc n => '-' :: Nat.toDigits 10 (n + 1)

/-- A number with a fraction is spelled as an integer with an exponent. -/
def Number.spelling : Number → List Char
  | .integer value => spellInt value
  | .fraction negative digits exponent =>
    (if negative then ['-'] else []) ++ Nat.toDigits 10 digits ++ ['e'] ++ spellInt exponent

mutual

def spell : Json → List Char
  | null | illFormed => ['n', 'u', 'l', 'l']
  | bool true => ['t', 'r', 'u', 'e']
  | bool false => ['f', 'a', 'l', 's', 'e']
  | number value => Number.spelling value
  | string text => quote text
  | array items => '[' :: (spellItems items ++ [']'])
  | object members => '\x7b' :: (spellMembers members ++ ['\x7d'])

def spellItems : List Json → List Char
  | [] => []
  | [item] => spell item
  | item :: rest => spell item ++ ',' :: spellItems rest

def spellMembers : List (String × Json) → List Char
  | [] => []
  | [(name, value)] => quote name ++ ':' :: spell value
  | (name, value) :: rest => quote name ++ ':' :: (spell value ++ ',' :: spellMembers rest)

end

def render (value : Json) : String := .ofList (spell value)

end BuildController.Json
