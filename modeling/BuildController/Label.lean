import BuildController.Text.Blank
import BuildController.Text.Numeral

/-! The syntax of names and labels. A check answers with the problems it finds, none for a valid
text; lengths are counted in bytes, and no other letters and digits than those of ASCII count. -/
namespace BuildController.Label

open BuildController.Text

def isAlnum (c : Char) : Bool := c.isAlphanum

/-- A character inside the name part of a label key or inside a label value. -/
def isNameChar (c : Char) : Bool := isAlnum c || c = '-' || c = '_' || c = '.'

def isLowerAlnum (c : Char) : Bool := ('a' ≤ c && c ≤ 'z') || isDigit c

/-- A nonempty text over a class that begins and ends in a character of a narrower one. -/
def bounded (edge inside : Char → Bool) (cs : List Char) : Bool :=
  match cs.head?, cs.getLast? with
  | some first, some last => edge first && edge last && cs.all inside
  | _, _ => false

/-- A name part: name characters between two letters or digits. -/
def isName (cs : List Char) : Bool := bounded isAlnum isNameChar cs

/-- One label of a subdomain: lower case letters, digits and dashes, no dash at an end. -/
def isDomainLabel (cs : List Char) : Bool :=
  bounded isLowerAlnum (fun c => isLowerAlnum c || c = '-') cs

/-- A subdomain: labels between points. -/
def isSubdomain (cs : List Char) : Bool := (splitAt '.' cs).all isDomainLabel

def nameLimit : Nat := 63
def valueLimit : Nat := 63
def subdomainLimit : Nat := 253

inductive SubdomainProblem
  | tooLong
  | malformed
  deriving DecidableEq, Repr

inductive ValueProblem
  | tooLong
  | malformed
  deriving DecidableEq, Repr

inductive NameProblem
  | domainEmpty
  | domain (problem : SubdomainProblem)
  | manySlashes
  | nameEmpty
  | nameTooLong
  | nameMalformed
  deriving DecidableEq, Repr

def SubdomainProblem.message : SubdomainProblem → String
  | .tooLong => "must be no more than 253 characters"
  | .malformed =>
    "a lowercase RFC 1123 subdomain must consist of lower case alphanumeric characters, '-' or " ++
    "'.', and must start and end with an alphanumeric character (e.g. 'example.com', regex used " ++
    "for validation is '[a-z0-9]([-a-z0-9]*[a-z0-9])?(\\.[a-z0-9]([-a-z0-9]*[a-z0-9])?)*')"

def ValueProblem.message : ValueProblem → String
  | .tooLong => "must be no more than 63 characters"
  | .malformed =>
    "a valid label must be an empty string or consist of alphanumeric characters, '-', '_' or " ++
    "'.', and must start and end with an alphanumeric character (e.g. 'MyValue',  or " ++
    "'my_value',  or '12345', regex used for validation is " ++
    "'(([A-Za-z0-9][-A-Za-z0-9_.]*)?[A-Za-z0-9])?')"

def NameProblem.message : NameProblem → String
  | .domainEmpty => "prefix part must be non-empty"
  | .domain problem => "prefix part " ++ problem.message
  | .manySlashes =>
    "a qualified name must consist of alphanumeric characters, '-', '_' or '.', and must start " ++
    "and end with an alphanumeric character (e.g. 'MyName',  or 'my.name',  or '123-abc', regex " ++
    "used for validation is '([A-Za-z0-9][-A-Za-z0-9_.]*)?[A-Za-z0-9]') with an optional DNS " ++
    "subdomain prefix and '/' (e.g. 'example.com/MyName')"
  | .nameEmpty => "name part must be non-empty"
  | .nameTooLong => "name part must be no more than 63 characters"
  | .nameMalformed =>
    "name part must consist of alphanumeric characters, '-', '_' or '.', and must start and end " ++
    "with an alphanumeric character (e.g. 'MyName',  or 'my.name',  or '123-abc', regex used " ++
    "for validation is '([A-Za-z0-9][-A-Za-z0-9_.]*)?[A-Za-z0-9]')"

def byteLength (cs : List Char) : Nat := cs.foldl (fun n c => n + c.utf8Size) 0

/-- The one problem, if the condition holds. -/
def problemIf (condition : Bool) (problem : α) : List α := if condition then [problem] else []

def subdomainProblems (cs : List Char) : List SubdomainProblem :=
  problemIf (subdomainLimit < byteLength cs) .tooLong ++ problemIf (!isSubdomain cs) .malformed

/-- Checks a label value, which may be empty. -/
def valueProblems (cs : List Char) : List ValueProblem :=
  problemIf (valueLimit < byteLength cs) .tooLong
    ++ problemIf (!(cs.isEmpty || isName cs)) .malformed

def namePartProblems (cs : List Char) : List NameProblem :=
  (if cs.isEmpty then [.nameEmpty] else problemIf (nameLimit < byteLength cs) .nameTooLong)
    ++ problemIf (!isName cs) .nameMalformed

/-- Checks a qualified name: a name part, after an optional subdomain and a slash. -/
def nameProblems (cs : List Char) : List NameProblem :=
  match splitAt '/' cs with
  | [name] => namePartProblems name
  | [domain, name] =>
    (if domain.isEmpty then [.domainEmpty] else (subdomainProblems domain).map .domain)
      ++ namePartProblems name
  | _ => [.manySlashes]

def checkName (s : String) : List String := (nameProblems s.toList).map NameProblem.message

def checkValue (s : String) : List String := (valueProblems s.toList).map ValueProblem.message

def checkSubdomain (s : String) : List String :=
  (subdomainProblems s.toList).map SubdomainProblem.message

end BuildController.Label
