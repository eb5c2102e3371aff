import BuildController.Json.Basic
import BuildController.Text.Numeral

/-! The tokens of a JSON text. The scanner is a left fold over the characters: its state is the
token under way, and a word or a numeral ends where a character comes that cannot continue it. -/
namespace BuildController.Json

/-- A token. A string that names half of a surrogate pair has no text. -/
inductive Token
  | openArray
  | closeArray
  | openObject
  | closeObject
  | comma
  | colon
  | scalar (value : Json)
  | string (text : Option String)

/-- The part of a string read so far, last character first. A leading surrogate waits in `high`
for its partner; if something else follows, the string is no longer `wellFormed`. -/
structure Quotation where
  letters : List Char := []
  high : Option Nat := none
  wellFormed : Bool := true

namespace Quotation

def push (q : Quotation) (c : Char) : Quotation :=
  { letters := c :: q.letters, high := none, wellFormed := q.wellFormed && q.high.isNone }

/-- Appends the sixteen-bit unit of an escape. -/
def pushUnit (q : Quotation) (unit : Nat) : Quotation :=
  match q.high with
  | some high =>
    if 0xDC00 ≤ unit && unit ≤ 0xDFFF then
      { q with
        letters := Char.ofNat (0x10000 + (high - 0xD800) * 0x400 + (unit - 0xDC00)) :: q.letters
        high := none }
    else { q with high := none, wellFormed := false }
  | none =>
    if 0xD800 ≤ unit && unit ≤ 0xDBFF then { q with high := some unit }
    else if 0xDC00 ≤ unit && unit ≤ 0xDFFF then { q with wellFormed := false }
    else { q with letters := Char.ofNat unit :: q.letters }

/-- The text of the string, if every surrogate has its partner. -/
def text? (q : Quotation) : Option String :=
  if q.wellFormed && q.high.isNone then some (.ofList q.letters.reverse) else none

end Quotation

/-- The token under way. Letters and digits are kept last first. -/
inductive Scan
  | between
  | word (letters : List Char)
  | numeral (spelling : List Char)
  | quoted (text : Quotation)
  | escaped (text : Quotation)
  | hexadecimal (text : Quotation) (digits value : Nat)

def isSpace (c : Char) : Bool := c = ' ' || c = '\t' || c = '\n' || c = '\r'

def isLetter (c : Char) : Bool := 'a' ≤ c && c ≤ 'z'

def isNumeral (c : Char) : Bool :=
  Text.isDigit c || c = '-' || c = '+' || c = '.' || c = 'e' || c = 'E'

def ofWord? (letters : List Char) : Option Json :=
  if letters = ['n', 'u', 'l', 'l'] then some null
  else if letters = ['t', 'r', 'u', 'e'] then some (bool true)
  else if letters = ['f', 'a', 'l', 's', 'e'] then some (bool false)
  else none

def exponent? : List Char → Option Int
  | '+' :: digits => (Text.natural? digits).map Int.ofNat
  | '-' :: digits => (Text.natural? digits).map fun n => -Int.ofNat n
  | digits => (Text.natural? digits).map Int.ofNat

def spanDigits (cs : List Char) : List Char × List Char :=
  (cs.takeWhile Text.isDigit, cs.dropWhile Text.isDigit)

/-- Reads what follows the whole digits of a numeral: a fraction, an exponent, both or nothing. -/
def afterWhole? (negative : Bool) (whole : Nat) : List Char → Option Number
  | [] => some (if negative && whole = 0 then .fraction true 0 0
      else .integer (if negative then -Int.ofNat whole else Int.ofNat whole))
  | '.' :: rest =>
    let (digits, rest) := spanDigits rest
    if digits = [] then none
    else
      let value := digits.foldl (fun n c => n * 10 + Text.digitValue c) whole
      let places : Int := Int.ofNat digits.length
      match rest with
      | [] => some (.fraction negative value (-places))
      | 'e' :: rest | 'E' :: rest => (exponent? rest).map fun e => .fraction negative value (e - places)
      | _ => none
  | 'e' :: rest | 'E' :: rest => (exponent? rest).map fun e => .fraction negative whole e
  | _ => none

/-- Reads a numeral: a sign, whole digits without a leading zero, a fraction, an exponent. -/
def Number.ofSpelling? (spelling : List Char) : Option Number :=
  let (negative, rest) := match spelling with
    | '-' :: rest => (true, rest)
    | _ => (false, spelling)
  let (whole, rest) := spanDigits rest
  match whole with
  | [] => none
  | '0' :: _ :: _ => none
  | _ => afterWhole? negative (Text.valueOfDigits whole) rest

/-- The tokens that end where the text or the token under way ends. -/
def Scan.finish : Scan → Option (List Token)
  | .between => some []
  | .word letters => (ofWord? letters.reverse).map fun value => [.scalar value]
  | .numeral spelling =>
    (Number.ofSpelling? spelling.reverse).map fun value => [.scalar (.number value)]
  | .quoted _ | .escaped _ | .hexadecimal .. => none

/-- Begins a token, or passes over a blank. -/
def Scan.start (done : List Token) (c : Char) : Option (List Token × Scan) :=
  if isSpace c then some (done, .between)
  else if isLetter c then some (done, .word [c])
  else if Text.isDigit c || c = '-' then some (done, .numeral [c])
  else match c with
    | '\x22' => some (done, .quoted {})
    | '[' => some (.openArray :: done, .between)
    | ']' => some (.closeArray :: done, .between)
    | '\x7b' => some (.openObject :: done, .between)
    | '\x7d' => some (.closeObject :: done, .between)
    | ',' => some (.comma :: done, .between)
    | ':' => some (.colon :: done, .between)
    | _ => none

def ofEscape? : Char → Option Char
  | '\x22' => some '\x22'
  | '\\' => some '\\'
  | '/' => some '/'
  | 'b' => some '\x08'
  | 'f' => some '\x0c'
  | 'n' => some '\n'
  | 'r' => some '\r'
  | 't' => some '\t'
  | _ => none

/-- Takes one character. The tokens read so far stand last first. -/
def Scan.step (state : List Token × Scan) (c : Char) : Option (List Token × Scan) :=
  let (done, scan) := state
  match scan with
  | .between => start done c
  | .word letters =>
    if isLetter c then some (done, .word (c :: letters))
    else (scan.finish).bind fun ended => start (ended ++ done) c
  | .numeral spelling =>
    if isNumeral c then some (done, .numeral (c :: spelling))
    else (scan.finish).bind fun ended => start (ended ++ done) c
  | .quoted text =>
    if c = '\x22' then some (.string text.text? :: done, .between)
    else if c = '\\' then some (done, .escaped text)
    else if c.toNat < 0x20 then none
    else some (done, .quoted (text.push c))
  | .escaped text =>
    if c = 'u' then some (done, .hexadecimal text 0 0)
    else (ofEscape? c).map fun d => (done, .quoted (text.push d))
  | .hexadecimal text digits value =>
    (Text.hexValue? c).map fun d =>
      if digits = 3 then (done, .quoted (text.pushUnit (value * 16 + d)))
      else (done, .hexadecimal text (digits + 1) (value * 16 + d))

def tokens? (cs : List Char) : Option (List Token) := do
  let (done, scan) ← cs.foldlM Scan.step ([], .between)
  let ended ← scan.finish
  return (ended ++ done).reverse

end BuildController.Json
