import BuildController.Text.Numeral

/-! Percent-encoding. A class says which ASCII characters are encoded in a part of a URL; every
other character is encoded in all parts, as the bytes of its UTF-8 form. -/
namespace BuildController.Url

/-- The bytes of the UTF-8 form of a character. -/
def utf8 (c : Char) : List Nat := (String.utf8EncodeChar c).map UInt8.toNat

def inControls (c : Char) : Bool := c.toNat < 0x20 || c.toNat = 0x7F

def inFragment (c : Char) : Bool :=
  inControls c || c = ' ' || c = '\x22' || c = '<' || c = '>' || c = '\x60'

def inQuery (c : Char) : Bool :=
  inControls c || c = ' ' || c = '\x22' || c = '#' || c = '<' || c = '>'

def inSpecialQuery (c : Char) : Bool := inQuery c || c = '\x27'

def inPath (c : Char) : Bool :=
  inFragment c || c = '#' || c = '?' || c = '\x7b' || c = '\x7d'

def inUserinfo (c : Char) : Bool :=
  inPath c || c = '/' || c = ':' || c = ';' || c = '=' || c = '@' || c = '[' || c = '\\' || c = ']'
    || c = '^' || c = '|'

def upperHex (n : Nat) : Char := (Text.hexDigit n).toUpper

def encodeByte (n : Nat) : List Char := ['%', upperHex (n / 16), upperHex (n % 16)]

/-- Encodes the characters of the class and all that are not ASCII. -/
def encodeChar (encoded : Char → Bool) (c : Char) : List Char :=
  if encoded c || 0x7F < c.toNat then (utf8 c).flatMap encodeByte else [c]

def percentEncode (encoded : Char → Bool) (cs : List Char) : List Char :=
  cs.flatMap (encodeChar encoded)

/-- The bytes of a text in which encoded bytes are decoded. A percent sign that two hexadecimal
digits do not follow stands for itself. -/
def percentDecode : List Char → List Nat
  | '%' :: a :: b :: rest =>
    match Text.hexValue? a, Text.hexValue? b with
    | some high, some low => (high * 16 + low) :: percentDecode rest
    | _, _ => '%'.toNat :: percentDecode (a :: b :: rest)
  | c :: rest => utf8 c ++ percentDecode rest
  | [] => []

/-- A pair of a query in the form in which forms are submitted: letters, digits and four marks
stand for themselves, a space becomes a plus sign and all other bytes are encoded. -/
def formEncode (s : String) : List Char :=
  s.toList.flatMap fun c =>
    if c = ' ' then ['+']
    else if c.isAlphanum || c = '*' || c = '-' || c = '.' || c = '_' then [c]
    else (utf8 c).flatMap encodeByte

end BuildController.Url
