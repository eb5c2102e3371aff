/-! Decimal numerals. A numeral is read with an optional sign and without blanks or separators,
and only if its value lies in a given range; it is written without leading zeros. -/
namespace BuildController.Text

/-- A decimal digit; no other script's digits count. -/
def isDigit (c : Char) : Bool := '0' ≤ c && c ≤ '9'

def digitValue (c : Char) : Nat := c.toNat - '0'.toNat

def hexValue? (c : Char) : Option Nat :=
  if isDigit c then some (digitValue c)
  else if 'a' ≤ c && c ≤ 'f' then some (c.toNat - 'a'.toNat + 10)
  else if 'A' ≤ c && c ≤ 'F' then some (c.toNat - 'A'.toNat + 10)
  else none

def hexDigit (n : Nat) : Char :=
  if n < 10 then Char.ofNat ('0'.toNat + n) else Char.ofNat ('a'.toNat + (n - 10))

def valueOfDigits (cs : List Char) : Nat := cs.foldl (fun n c => n * 10 + digitValue c) 0

/-- Reads a nonempty row of digits that makes up the whole text. -/
def natural? (cs : List Char) : Option Nat :=
  if cs ≠ [] && cs.all isDigit then some (valueOfDigits cs) else none

def unsigned? (bound : Nat) (cs : List Char) : Option Nat :=
  let digits := match cs with
    | '+' :: rest => rest
    | _ => cs
  (natural? digits).filter (· < bound)

def signed? (low high : Int) (cs : List Char) : Option Int :=
  let value := match cs with
    | '+' :: rest => (natural? rest).map Int.ofNat
    | '-' :: rest => (natural? rest).map fun n => -Int.ofNat n
    | _ => (natural? cs).map Int.ofNat
  value.filter fun v => low ≤ v && v ≤ high

def uint64? (s : String) : Option UInt64 := (unsigned? UInt64.size s.toList).map UInt64.ofNat

def int64? (s : String) : Option Int64 :=
  (signed? Int64.minValue.toInt Int64.maxValue.toInt s.toList).map Int64.ofInt

/-- The decimal digits of a number, at least `width` of them. -/
def padded (width n : Nat) : List Char :=
  let digits := Nat.toDigits 10 n
  List.replicate (width - digits.length) '0' ++ digits

/-- The hexadecimal digits of a number, at least `width` of them, letters in lower case. -/
def paddedHex (width n : Nat) : List Char :=
  let digits := Nat.toDigits 16 n
  List.replicate (width - digits.length) '0' ++ digits

end BuildController.Text
