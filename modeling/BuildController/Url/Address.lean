import BuildController.Text.Blank
import BuildController.Text.Numeral

/-! Numeric hosts. An IPv4 address has up to four numbers, decimal, octal or hexadecimal, of which
the last fills all bytes that are left; an IPv6 address has eight pieces, a run of zeros left out
at most once, and may end in four decimal bytes. -/
namespace BuildController.Url

open BuildController.Text

/-- The digits of a number and its base: hexadecimal after `0x`, octal after another zero. -/
def ipv4Base : List Char → Nat × List Char
  | '0' :: 'x' :: rest | '0' :: 'X' :: rest => (16, rest)
  | '0' :: c :: rest => (8, c :: rest)
  | cs => (10, cs)

def ipv4Number? (cs : List Char) : Option Nat :=
  if cs = [] then none
  else
    let (base, digits) := ipv4Base cs
    digits.foldlM (fun n c =>
      (hexValue? c).bind fun d => if d < base then some (n * base + d) else none) 0

/-- A host whose last part, an empty one at the end aside, is a number has to be an IPv4 address. -/
def endsInNumber (cs : List Char) : Bool :=
  let isNumber (part : List Char) : Bool :=
    (part ≠ [] && part.all isDigit) || (ipv4Number? part).isSome
  match (splitAt '.' cs).reverse with
  | [] :: part :: _ => isNumber part
  | [] :: [] => false
  | part :: _ => isNumber part
  | [] => false

def ipv4? (cs : List Char) : Option Nat := do
  let parts := splitAt '.' cs
  let parts := if parts.getLast? = some [] then parts.dropLast else parts
  if 4 < parts.length then none
  let numbers ← parts.mapM ipv4Number?
  let last ← numbers.getLast?
  let first := numbers.dropLast
  if first.all (· < 256) && last < Nat.pow 256 (4 - first.length) then
    return (first.zipIdx.foldl (fun n x => n + x.1 * Nat.pow 256 (3 - x.2)) last)
  else none

/-- The four bytes of an IPv4 address in decimal, separated by points. -/
def spellIpv4 (address : Nat) : List Char :=
  let byte (i : Nat) : List Char := Nat.toDigits 10 (address / Nat.pow 256 i % 256)
  byte 3 ++ '.' :: byte 2 ++ '.' :: byte 1 ++ '.' :: byte 0

/-- Reads one of the four bytes that can end an IPv6 address: decimal, without leading zeros. -/
def ipv6Byte? (cs : List Char) : Option Nat :=
  match cs with
  | '0' :: _ :: _ => none
  | _ => (natural? cs).filter (· < 256)

def ipv6Bytes? (cs : List Char) : Option (List Nat) := do
  match ← (splitAt '.' cs).mapM ipv6Byte? with
  | [a, b, c, d] => return [a * 256 + b, c * 256 + d]
  | _ => none

def ipv6Piece? (cs : List Char) : Option Nat :=
  if cs = [] || 4 < cs.length then none
  else cs.foldlM (fun n c => (hexValue? c).map fun d => n * 16 + d) 0

/-- Reads pieces between colons; the last may be given as four bytes if `final` holds. -/
def ipv6Pieces? (final : Bool) : List (List Char) → Option (List Nat)
  | [] => some []
  | [part] =>
    if final && part.contains '.' then ipv6Bytes? part
    else (ipv6Piece? part).map fun n => [n]
  | part :: rest => do return (← ipv6Piece? part) :: (← ipv6Pieces? final rest)

def splitCompressed : List Char → Option (List Char × List Char)
  | ':' :: ':' :: rest => some ([], rest)
  | c :: rest => (splitCompressed rest).map fun r => (c :: r.1, r.2)
  | [] => none

def ipv6Group? (final : Bool) (cs : List Char) : Option (List Nat) :=
  if cs = [] then some [] else ipv6Pieces? final (splitAt ':' cs)

def ipv6? (cs : List Char) : Option (List Nat) :=
  match splitCompressed cs with
  | none => (ipv6Group? true cs).filter (·.length = 8)
  | some (front, back) => do
    let front ← ipv6Group? false front
    let back ← ipv6Group? true back
    if front.length + back.length < 8 then
      return front ++ List.replicate (8 - front.length - back.length) 0 ++ back
    else none

def zerosAt (pieces : List Nat) : Nat := (pieces.takeWhile (· = 0)).length

/-- The start and the length of the first longest run of zeros. -/
def longestZeros (pieces : List Nat) : Nat × Nat :=
  (List.range pieces.length).foldl (fun best i =>
    let here := zerosAt (pieces.drop i)
    if best.2 < here then (i, here) else best) (0, 0)

def spellPieces (pieces : List Nat) : List Char :=
  [':'].intercalate (pieces.map fun n => Nat.toDigits 16 n)

/-- The pieces in hexadecimal, the first longest run of at least two zeros left out. -/
def spellIpv6 (pieces : List Nat) : List Char :=
  let (start, count) := longestZeros pieces
  if count < 2 then spellPieces pieces
  else spellPieces (pieces.take start) ++ [':', ':'] ++ spellPieces (pieces.drop (start + count))

end BuildController.Url
