import BuildController.Time.Instant
import BuildController.Text.Blank
import BuildController.Text.Numeral
import BuildController.Json.Wire

/-! The text of an instant, `2024-01-31T12:30:00.5Z`. Written, it is in universal time, with as few
of 0, 3, 6 or 9 decimals as its fraction needs; only after the second 59 does the text tell a leap
second from the second that follows. Read, it may have any offset, one digit where two are usual,
blanks around its parts and a space instead of the `T`. -/
namespace BuildController.Instant

open BuildController.Text

/-- The digits of a year; outside the years 0 to 9999 it has a sign. -/
def spellYear (year : Int) : List Char :=
  if 0 ≤ year && year ≤ 9999 then padded 4 year.toNat
  else if year < 0 then '-' :: padded 4 year.natAbs
  else '+' :: padded 4 year.natAbs

def spellFraction (nanosecond : Nat) : List Char :=
  if nanosecond = 0 then []
  else if nanosecond % 1_000_000 = 0 then '.' :: padded 3 (nanosecond / 1_000_000)
  else if nanosecond % 1_000 = 0 then '.' :: padded 6 (nanosecond / 1_000)
  else '.' :: padded 9 nanosecond

/-- The second and its nanoseconds as they are written: a leap second counts as the next one. -/
def writtenSecond (t : Instant) : Nat × Nat :=
  if t.nanosecond < 1_000_000_000 then (t.second, t.nanosecond)
  else (t.second + 1, t.nanosecond - 1_000_000_000)

def spell (t : Instant) : List Char :=
  let (second, nanosecond) := t.writtenSecond
  spellYear t.date.year ++ '-' :: padded 2 t.date.month ++ '-' :: padded 2 t.date.day
    ++ 'T' :: padded 2 t.hour ++ ':' :: padded 2 t.minute ++ ':' :: padded 2 second
    ++ spellFraction nanosecond ++ ['Z']

def skipBlanks (cs : List Char) : List Char := cs.dropWhile isBlank

/-- Reads one up to `width` digits after blanks. -/
def digits? (width : Nat) (cs : List Char) : Option (Nat × List Char) :=
  let cs := skipBlanks cs
  let digits := (cs.take width).takeWhile isDigit
  if digits = [] then none else some (valueOfDigits digits, cs.drop digits.length)

/-- Reads a year: four digits at most, or any number of them after a sign. -/
def year? (cs : List Char) : Option (Int × List Char) :=
  match skipBlanks cs with
  | '-' :: rest => signed rest fun n => -Int.ofNat n
  | '+' :: rest => signed rest Int.ofNat
  | cs => (digits? 4 cs).map fun r => (Int.ofNat r.1, r.2)
where
  signed (rest : List Char) (value : Nat → Int) : Option (Int × List Char) :=
    let digits := rest.takeWhile isDigit
    if digits = [] then none
    else some (value (valueOfDigits digits), rest.drop digits.length)

def separator? (c : Char) (cs : List Char) : Option (List Char) :=
  match skipBlanks cs with
  | d :: rest => if d = c then some rest else none
  | [] => none

/-- Reads what stands between date and time: the letter T or at least one blank. -/
def dateEnd? : List Char → Option (List Char)
  | 'T' :: rest | 't' :: rest => some rest
  | c :: rest => if isBlank c then some (skipBlanks rest) else none
  | [] => none

/-- Reads the decimals of the second, if there are any. Those after the ninth are passed over. -/
def fraction? : List Char → Option (Nat × List Char)
  | '.' :: rest =>
    let digits := rest.takeWhile isDigit
    if digits = [] then none
    else
      let kept := digits.take 9
      some (valueOfDigits kept * Nat.pow 10 (9 - kept.length), rest.drop digits.length)
  | cs => some (0, cs)

/-- The sign of an offset, with one of three characters. -/
def offsetSign? : Char → Option Int
  | '+' => some 1
  | '-' => some (-1)
  | '−' => some (-1)
  | _ => none

/-- Reads an offset from universal time: the letter Z, the word UTC, or a sign, two digits for the
hours and two for the minutes, which blanks and colons may separate. The result is in minutes. -/
def offset? (cs : List Char) : Option (Int × List Char) :=
  match cs with
  | 'Z' :: rest | 'z' :: rest => some (0, rest)
  | c :: rest =>
    if (cs.take 3).map Char.toUpper = ['U', 'T', 'C'] then some (0, cs.drop 3)
    else do
      let sign ← offsetSign? c
      let (hours, rest) ← pair? rest
      let (minutes, rest) ← pair? (rest.dropWhile fun c => c = ':' || isBlank c)
      if minutes < 60 && hours < 24 then
        return (sign * (hours * 60 + minutes : Nat), rest)
      else none
  | [] => none
where
  /-- Reads exactly two digits. -/
  pair? : List Char → Option (Nat × List Char)
    | c :: d :: rest =>
      if isDigit c && isDigit d then some (digitValue c * 10 + digitValue d, rest) else none
    | _ => none

def ofText? (s : String) : Option Instant := do
  let (year, cs) ← year? s.toList
  let (month, cs) ← digits? 2 (← separator? '-' cs)
  let (day, cs) ← digits? 2 (← separator? '-' cs)
  let (hour, cs) ← digits? 2 (← dateEnd? cs)
  let (minute, cs) ← digits? 2 (← separator? ':' cs)
  let (second, cs) ← digits? 2 (← separator? ':' cs)
  let (nanosecond, cs) ← fraction? cs
  let (ahead, cs) ← offset? (skipBlanks cs)
  if skipBlanks cs = [] && hour < 24 && minute < 60 then
    ofLocal? (← Date.ofParts? year month day) hour minute second nanosecond ahead
  else none

def toText (t : Instant) : String := .ofList t.spell

instance : Wire Instant where
  encode t := .string t.toText
  decode value := value.string?.bind ofText?

end BuildController.Instant
