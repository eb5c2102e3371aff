/-! Blank characters and trimming. A character is blank if Unicode gives it the property
`White_Space`; the trimming functions cut a text at both ends and leave its inside alone. -/
namespace BuildController.Text

/-- The property `White_Space`. -/
def isBlank (c : Char) : Bool :=
  let n := c.toNat
  (9 ≤ n && n ≤ 13) || n = 0x20 || n = 0x85 || n = 0xA0 || n = 0x1680
    || (0x2000 ≤ n && n ≤ 0x200A) || n = 0x2028 || n = 0x2029 || n = 0x202F || n = 0x205F
    || n = 0x3000

/-- Drops the characters of a class from both ends. -/
def trimList (p : Char → Bool) (cs : List Char) : List Char :=
  ((cs.dropWhile p).reverse.dropWhile p).reverse

/-- Drops the characters of a class from both ends of a string. -/
def trimWhere (p : Char → Bool) (s : String) : String := .ofList (trimList p s.toList)

def trim (s : String) : String := trimWhere isBlank s

def trimEnd (c : Char) (s : String) : String :=
  .ofList (s.toList.reverse.dropWhile (· = c)).reverse

def blank (s : String) : Bool := s.toList.all isBlank

/-- Upper and lower case of the letters `a` to `z` are not told apart. -/
def equalsIgnoringCase (s t : String) : Bool :=
  s.toList.map Char.toLower == t.toList.map Char.toLower

def beginsWith (start s : String) : Bool := start.toList.isPrefixOf s.toList

/-- The parts between the occurrences of a character, one more than there are occurrences. -/
def splitAt (c : Char) : List Char → List (List Char)
  | [] => [[]]
  | d :: rest =>
    if d = c then [] :: splitAt c rest
    else match splitAt c rest with
      | part :: parts => (d :: part) :: parts
      | [] => [[d]]

end BuildController.Text
