import BuildController.Url.Basic
import BuildController.Url.Domain

/-! Hosts of URLs. The host of a web address is percent-decoded, brought into its ASCII form and
checked against the characters that no domain has; one that ends in a number is an IPv4 address.
Other schemes keep their host as it is written. -/
namespace BuildController.Url

def forbiddenInHost (c : Char) : Bool :=
  c = '\x00' || c = '\t' || c = '\n' || c = '\r' || c = ' ' || c = '#' || c = '/' || c = ':'
    || c = '<' || c = '>' || c = '?' || c = '@' || c = '[' || c = '\\' || c = ']' || c = '^'
    || c = '|'

/-- Characters that cannot occur in a domain. -/
def forbiddenInDomain (c : Char) : Bool := forbiddenInHost c || inControls c || c = '%'

/-- The text whose UTF-8 form the bytes are. -/
def ofUtf8? (bytes : List Nat) : Option String :=
  String.fromUTF8? ⟨(bytes.map UInt8.ofNat).toArray⟩

def domainToAscii? (domain : String) : Option String :=
  ((Domain.ascii? domain.toList).filter fun cs => !cs.any forbiddenInDomain).map String.ofList

def bracketed? (cs : List Char) : Option Host :=
  match cs.reverse with
  | ']' :: inner => (ipv6? inner.reverse).map .ipv6
  | _ => none

/-- Reads the host of a web address. -/
def domainHost? (cs : List Char) : Option Host :=
  match cs with
  | '[' :: rest => bracketed? rest
  | _ => do
    let domain ← domainToAscii? (← ofUtf8? (percentDecode cs))
    if domain = "" then none
    else if endsInNumber domain.toList then (ipv4? domain.toList).map .ipv4
    else return .name domain

/-- Reads the host of any other address; it may be empty. -/
def plainHost? (cs : List Char) : Option Host :=
  match cs with
  | '[' :: rest => bracketed? rest
  | _ =>
    if cs.any forbiddenInHost then none
    else some (.name (.ofList (percentEncode inControls cs)))

end BuildController.Url
