/-! Punycode, the ASCII form of a label with other letters. The ASCII characters of a label come
first; the places and the code points of all others follow as a row of numbers, each written with
digits whose weights adapt to the numbers before. -/
namespace BuildController.Url.Punycode

/-- A digit: a letter for each value up to 25 and a figure for each from 26 to 35. -/
def digit (n : Nat) : Char :=
  if n < 26 then Char.ofNat ('a'.toNat + n) else Char.ofNat ('0'.toNat + (n - 26))

def digitValue? (c : Char) : Option Nat :=
  if 'a' ≤ c && c ≤ 'z' then some (c.toNat - 'a'.toNat)
  else if 'A' ≤ c && c ≤ 'Z' then some (c.toNat - 'A'.toNat)
  else if '0' ≤ c && c ≤ '9' then some (c.toNat - '0'.toNat + 26)
  else none

/-- The least value of a digit that others follow, given 36 times its position from one on. -/
def threshold (position bias : Nat) : Nat := min 26 (max 1 (position - bias))

theorem threshold_range (position bias : Nat) :
    1 ≤ threshold position bias ∧ threshold position bias ≤ 26 := by
  unfold threshold
  omega

/-- Divides a number until it is small, and adds 36 per division to the other. -/
def shrink (delta bias : Nat) : Nat :=
  if 455 < delta then shrink (delta / 35) (bias + 36)
  else bias + 36 * delta / (delta + 38)
termination_by delta

/-- The bias after a number, which is the first of the label or not, with the count of characters
that are placed by then. -/
def adapt (delta count : Nat) (first : Bool) : Nat :=
  let delta := if first then delta / 700 else delta / 2
  shrink (delta + delta / count) 0

/-- The digits of a number, the one of the least weight first. -/
def digits (bias position n : Nat) : List Char :=
  if n < threshold position bias then [digit n]
  else
    digit (threshold position bias
        + (n - threshold position bias) % (36 - threshold position bias))
      :: digits bias (position + 36)
        ((n - threshold position bias) / (36 - threshold position bias))
termination_by n
decreasing_by
  have := threshold_range position bias
  have := Nat.div_le_self (n - threshold position bias) (36 - threshold position bias)
  omega

/-- A label in the course of its encoding: the number to be written next, the bias for it, the count
of characters that are placed, whether no number was written yet, and what was written. -/
structure Encoding where
  delta : Nat
  bias : Nat
  placed : Nat
  first : Bool
  written : List Char

/-- Passes over a character while those with code point `n` are placed. -/
def Encoding.pass (n : Nat) (e : Encoding) (c : Char) : Encoding :=
  if c.toNat < n then { e with delta := e.delta + 1 }
  else if c.toNat = n then
    { delta := 0, bias := adapt e.delta (e.placed + 1) e.first, placed := e.placed + 1
      first := false, written := e.written ++ digits e.bias 36 e.delta }
  else e

/-- Places the characters of the given code points, in ascending order from `next` on. -/
def Encoding.place (cs : List Char) (e : Encoding) (next : Nat) : List Nat → Encoding
  | [] => e
  | n :: rest =>
    let passed := cs.foldl (pass n) { e with delta := e.delta + (n - next) * (e.placed + 1) }
    place cs { passed with delta := passed.delta + 1 } (n + 1) rest

def isBasic (c : Char) : Bool := c.toNat < 0x80

def encode (cs : List Char) : List Char :=
  let basic := cs.filter isBasic
  let others := (((cs.filter (!isBasic ·)).map Char.toNat).mergeSort).eraseReps
  let start : Encoding := ⟨0, 72, basic.length, true, []⟩
  (if basic.isEmpty then [] else basic ++ ['-'])
    ++ (start.place cs 0x80 others).written

/-- A label in the course of its decoding: the characters so far, the next code point, the number
that is read and where it began, weight and position of its next digit, and the bias. -/
structure Decoding where
  chars : List Char
  point : Nat
  value : Nat
  origin : Nat
  weight : Nat
  position : Nat
  bias : Nat

/-- Takes in a digit. The last one of a number places a character. -/
def Decoding.step (d : Decoding) (c : Char) : Option Decoding := do
  let n ← digitValue? c
  let value := d.value + n * d.weight
  let limit := threshold d.position d.bias
  if limit ≤ n then
    return { d with value, weight := d.weight * (36 - limit), position := d.position + 36 }
  let count := d.chars.length + 1
  let point := d.point + value / count
  if 0x110000 ≤ point || (0xD800 ≤ point && point < 0xE000) then none
  let place := value % count
  return {
    chars := d.chars.take place ++ Char.ofNat point :: d.chars.drop place
    point, value := place + 1, origin := place + 1, weight := 1, position := 36
    bias := adapt (value - d.origin) count (d.origin = 0) }

/-- Reads the numbers of an ASCII form, and places the characters they stand for among others. -/
def placed? (basic numbers : List Char) : Option (List Char) := do
  let d ← numbers.foldlM Decoding.step ⟨basic, 0x80, 0, 0, 1, 36, 72⟩
  if d.position = 36 then some d.chars else none

/-- The label of an ASCII form, without the mark. The last hyphen parts the ASCII characters from the
numbers; it is written after such characters only, so that none can stand first without others. -/
def decode? (cs : List Char) : Option (List Char) :=
  let reversed := cs.reverse
  let numbers := (reversed.takeWhile (· ≠ '-')).reverse
  match reversed.dropWhile (· ≠ '-') with
  | [] => placed? [] numbers
  | [_] => none
  | _ :: basic => placed? basic.reverse numbers

end BuildController.Url.Punycode
