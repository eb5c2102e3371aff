import BuildController.Text.Composition
import BuildController.Text.Direction
import BuildController.Text.Joining
import BuildController.Url.Domain.Mapping
import BuildController.Url.Punycode

/-! Internationalised domains. A domain is brought into one spelling, with small letters and composed
characters, and each label with other than ASCII characters is then written in ASCII behind a mark.
A label that has the mark already has to be the ASCII form of such a label. In a domain with letters
that are written from right to left, each label has one direction. Labels that are not ASCII have a
limited length, so that the work for their ASCII form is limited, too. -/
namespace BuildController.Url.Domain

open BuildController.Text

/-- What marks the ASCII form of a label. -/
def mark : List Char := ['x', 'n', '-', '-']

/-- The one spelling of a domain. -/
def spelling? (cs : List Char) : Option (List Char) :=
  if cs.all Punycode.isBasic then some (cs.map Char.toLower)
  else (cs.mapM meaning?).map fun meanings => composed meanings.flatten

/-- Can the joiner stand between the characters, those before it in reverse? Either may follow a
virama, and the one that keeps letters apart may stand between two that would join. -/
def joinerFits (joiner : Char) (before after : List Char) : Bool :=
  before.head?.any (accentClass · = viramaClass)
    || (joiner = '\u200c' && (before.find? (!isTransparent ·)).any joinsNext
      && (after.find? (!isTransparent ·)).any joinsPrevious)

/-- Can every joiner stand where it does, after the characters before, given in reverse? -/
def joinersFit (before : List Char) : List Char → Bool
  | [] => true
  | c :: after => (!isJoiner c || joinerFits c before after) && joinersFit (c :: before) after

/-- The most characters that a label with other than ASCII characters has. -/
def longestLabel : Nat := 1000

/-- The most characters that an ASCII form has after its mark, if a domain is written with it. -/
def longestForm : Nat := 2000

/-- Can the characters, if they can occur and are not all ASCII, form a label? -/
def isLabel (cs : List Char) : Bool :=
  cs.length ≤ longestLabel && !cs.head?.any isMark && joinersFit [] cs

/-- The label whose ASCII form follows the mark, if it is in its one spelling and needs the form. -/
def marked? (cs : List Char) : Option (List Char) :=
  if longestForm < cs.length then none
  else
    (Punycode.decode? cs).filter fun label =>
      !label.all Punycode.isBasic && isLabel label && spelling? label = some label

/-- The label that the characters stand for: the one behind the mark, or themselves. -/
def label? (cs : List Char) : Option (List Char) :=
  if cs.all Punycode.isBasic then
    if mark.isPrefixOf cs then marked? (cs.drop mark.length) else some cs
  else if !mark.isPrefixOf cs && isLabel cs then some cs
  else none

/-- Has the label letters or numbers that are written from right to left? -/
def hasRightToLeft (label : List Char) : Bool :=
  label.any fun c => direction c = .right || direction c = .arabicNumber

/-- Does the label have one direction? Its first letter gives it, no letter has the other one, and
it ends in a letter or a number, accents aside. Arabic numerals stand among letters from right to
left alone, and not together with European ones. -/
def hasOneDirection (label : List Char) : Bool :=
  let directions := label.map direction
  let last := directions.reverse.find? (· ≠ .accent)
  match directions with
  | [] => true
  | .left :: _ =>
    !directions.contains .right && !directions.contains .arabicNumber && last ≠ some .neutral
  | .right :: _ =>
    !directions.contains .left && last ≠ some .neutral
      && !(directions.contains .europeanNumber && directions.contains .arabicNumber)
  | _ => false

def asciiLabel (cs : List Char) : List Char :=
  if cs.all Punycode.isBasic then cs else mark ++ Punycode.encode cs

def ascii? (cs : List Char) : Option (List Char) := do
  let written := splitAt '.' (← spelling? cs)
  let labels ← written.mapM label?
  if labels.any hasRightToLeft && !labels.all hasOneDirection then none
  else return ['.'].intercalate (written.map asciiLabel)

end BuildController.Url.Domain
