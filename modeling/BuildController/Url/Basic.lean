import BuildController.Url.Percent
import BuildController.Url.Address

/-! The parts of a URL and its text. All parts are kept as they are written in the text, that is
percent-encoded and with a host name in lower case. -/
namespace BuildController

/-- A host: a name, the number of an IPv4 address or the eight pieces of an IPv6 address. -/
inductive Host
  | name (text : String)
  | ipv4 (address : Nat)
  | ipv6 (pieces : List Nat)
  deriving DecidableEq, Repr

/-- A path: its segments, each written after a slash, or a text that no slash begins. -/
inductive UrlPath
  | segments (parts : List String)
  | plain (text : String)
  deriving DecidableEq, Repr

/-- A URL. A scheme that knows no hosts has no `host`; a missing user name or password is empty,
and a port that is the usual one of the scheme is missing. -/
structure Url where
  scheme : String
  username : String
  password : String
  host : Option Host
  port : Option Nat
  path : UrlPath
  query : Option String
  fragment : Option String
  deriving DecidableEq, Repr

namespace Url

def spellHost : Host → List Char
  | .name text => text.toList
  | .ipv4 address => spellIpv4 address
  | .ipv6 pieces => '[' :: (spellIpv6 pieces ++ [']'])

/-- User name and password before the host, ended by an at sign. -/
def spellUserinfo (url : Url) : List Char :=
  if url.username = "" && url.password = "" then []
  else
    url.username.toList
      ++ (if url.password = "" then [] else ':' :: url.password.toList) ++ ['@']

def spellPath : UrlPath → List Char
  | .segments parts => parts.flatMap fun part => '/' :: part.toList
  | .plain text => text.toList

def spellAuthority (url : Url) : List Char :=
  match url.host with
  | none => []
  | some host =>
    ['/', '/'] ++ url.spellUserinfo ++ spellHost host
      ++ (match url.port with
        | some port => ':' :: Nat.toDigits 10 port
        | none => [])

def spellQuery (url : Url) : List Char :=
  match url.query with
  | some query => '?' :: query.toList
  | none => []

def spellFragment (url : Url) : List Char :=
  match url.fragment with
  | some fragment => '#' :: fragment.toList
  | none => []

def toText (url : Url) : String :=
  .ofList (url.scheme.toList ++ ':' :: url.spellAuthority ++ spellPath url.path
    ++ url.spellQuery ++ url.spellFragment)

def pathText (url : Url) : String := .ofList (spellPath url.path)

/-- Path and query as they stand in a request; a fragment is never sent. -/
def target (url : Url) : String := .ofList (spellPath url.path ++ url.spellQuery)

def lastSegment? (url : Url) : Option String :=
  match url.path with
  | .segments parts => parts.getLast?
  | .plain _ => none

def isHttp (url : Url) : Bool := url.scheme = "http" || url.scheme = "https"

/-- Appends a pair to the query, in the form in which forms are submitted. -/
def addPair (url : Url) (key value : String) : Url :=
  let pair := formEncode key ++ '=' :: formEncode value
  let query := match url.query with
    | some query => if query = "" then pair else query.toList ++ '&' :: pair
    | none => pair
  { url with query := some (.ofList query) }

end Url

end BuildController
