import BuildController.Url.Host

/-! Reading an absolute URL. Web addresses are read leniently: any number of slashes, backslashes
too, may follow the scheme, and characters that a part cannot hold are percent-encoded. Segments
that denote this or the parent directory are resolved. -/
namespace BuildController.Url

open BuildController.Text

/-- How a scheme is read: as a web address, as the address of a file, or without special rules. -/
inductive SchemeKind
  | web (defaultPort : Nat)
  | file
  | other
  deriving DecidableEq

def SchemeKind.of (scheme : String) : SchemeKind :=
  if scheme = "http" || scheme = "ws" then .web 80
  else if scheme = "https" || scheme = "wss" then .web 443
  else if scheme = "ftp" then .web 21
  else if scheme = "file" then .file
  else .other

/-- A backslash stands for a slash. -/
def SchemeKind.special : SchemeKind → Bool
  | .other => false
  | _ => true

def SchemeKind.isSlash (kind : SchemeKind) (c : Char) : Bool := c = '/' || (kind.special && c = '\\')

def splitBefore (p : Char → Bool) (cs : List Char) : List Char × List Char :=
  (cs.takeWhile fun c => !p c, cs.dropWhile fun c => !p c)

/-- Drops control characters and spaces at both ends, and tabs and line breaks everywhere. -/
def clean (cs : List Char) : List Char :=
  (trimList (fun c => c.toNat ≤ 0x20) cs).filter fun c => c ≠ '\t' && c ≠ '\n' && c ≠ '\r'

def scheme? (cs : List Char) : Option (String × List Char) :=
  let (name, rest) := splitBefore (· = ':') cs
  match name, rest with
  | first :: _, _ :: rest =>
    if first.isAlpha && name.all fun c => c.isAlphanum || c = '+' || c = '-' || c = '.' then
      some (.ofList (name.map Char.toLower), rest)
    else none
  | _, _ => none

def splitLast (c : Char) (cs : List Char) : Option (List Char × List Char) :=
  let (after, before) := splitBefore (· = c) cs.reverse
  match before with
  | _ :: before => some (before.reverse, after.reverse)
  | [] => none

/-- The text up to a colon outside brackets, and the rest. -/
def splitHost (bracket : Bool) : List Char → List Char × List Char
  | [] => ([], [])
  | c :: rest =>
    if c = ':' && !bracket then ([], c :: rest)
    else
      let inside := if c = '[' then true else if c = ']' then false else bracket
      let (host, after) := splitHost inside rest
      (c :: host, after)

/-- Reads a port after its colon. An empty port and the usual one of the scheme are missing. -/
def port? (kind : SchemeKind) : List Char → Option (Option Nat)
  | [] => some none
  | _ :: [] => some none
  | _ :: digits => do
    let port ← (natural? digits).filter (· < 65536)
    return if kind = .web port then none else some port

/-- The authority of a URL, and the text after it that is of the path. -/
structure Authority where
  username : String
  password : String
  host : Host
  port : Option Nat
  after : List Char

def userinfo (cs : List Char) : String × String :=
  let (username, password) := splitBefore (· = ':') cs
  (.ofList (percentEncode inUserinfo username), .ofList (percentEncode inUserinfo (password.drop 1)))

/-- Reads an authority; `atEnd` says that nothing follows it. A port ends at a backslash, too. -/
def authority? (kind : SchemeKind) (atEnd : Bool) (cs : List Char) : Option Authority := do
  let (info, place) := (splitLast '@' cs).getD ([], cs)
  if info = [] && place = [] && cs ≠ [] && !atEnd then none
  let (username, password) := userinfo info
  let (hostText, portText) := splitHost false place
  let host ← if kind.special then domainHost? hostText else plainHost? hostText
  if host = .name "" && (kind.special || portText ≠ [] || username ≠ "" || password ≠ "") then none
  let (portText, after) := splitBefore (· = '\\') portText
  let port ← port? kind portText
  return { username, password, host, port, after }

/-- A segment that denotes the directory itself, encoded or not. -/
def isHere (segment : List Char) : Bool := segment = ['.'] || segment.map Char.toLower = ['%', '2', 'e']

/-- A segment that denotes the directory above, encoded or not. -/
def isParent (segment : List Char) : Bool :=
  let lowered := segment.map Char.toLower
  lowered = ['.', '.'] || lowered = ['.', '%', '2', 'e'] || lowered = ['%', '2', 'e', '.']
    || lowered = ['%', '2', 'e', '%', '2', 'e']

/-- A letter and a colon, or a bar in place of the colon. -/
def isDrive (segment : List Char) : Bool :=
  match segment with
  | [letter, mark] => letter.isAlpha && (mark = ':' || mark = '|')
  | _ => false

/-- Drops the last segment unless it is a drive. -/
def dropSegment : List (List Char) → List (List Char)
  | [] => []
  | segment :: before => if isDrive segment then segment :: before else before

/-- Resolves the segments of a path in turn; those resolved before stand last first. -/
def resolve (kind : SchemeKind) (before : List (List Char)) :
    List (List Char) → List (List Char)
  | [] => before.reverse
  | segment :: rest =>
    let ended := rest.isEmpty
    if isParent segment then
      let above := dropSegment before
      resolve kind (if ended then [] :: above else above) rest
    else if isHere segment then
      resolve kind (if ended then [] :: before else before) rest
    else if kind = .file && before.isEmpty && isDrive segment then
      resolve kind ((segment.take 1 ++ [':']) :: before) rest
    else resolve kind (segment :: before) rest

/-- The parts of a text between the slashes, as a scheme knows them. -/
def splitSlashes (kind : SchemeKind) (cs : List Char) : List (List Char) :=
  splitAt '/' (cs.map fun c => if kind.isSlash c then '/' else c)

/-- The segments of a path, given without its first slash. The path of a file has no empty
segments at its beginning. -/
def pathSegments (kind : SchemeKind) (cs : List Char) : List String :=
  let segments := resolve kind [] ((splitSlashes kind cs).map (percentEncode inPath))
  let segments :=
    if kind = .file then
      match segments.dropWhile (· = []) with
      | [] => [[]]
      | kept => kept
    else segments
  segments.map String.ofList

def isPathEnd (c : Char) : Bool := c = '?' || c = '#'

def queryAndFragment (kind : SchemeKind) (cs : List Char) : Option String × Option String :=
  let (query, fragment) := splitBefore (· = '#') cs
  let encoded := if kind.special then inSpecialQuery else inQuery
  (match query with
    | _ :: query => some (.ofList (percentEncode encoded query))
    | [] => none,
   match fragment with
    | _ :: fragment => some (.ofList (percentEncode inFragment fragment))
    | [] => none)

/-- The path that follows an authority. -/
def pathAfterHost (kind : SchemeKind) (cs : List Char) : UrlPath :=
  match cs with
  | [] => .segments (if kind.special then [""] else [])
  | c :: rest => .segments (pathSegments kind (if kind.isSlash c then rest else cs))

/-- Reads what follows two slashes: authority, path, query and fragment. -/
def afterSlashes? (scheme : String) (kind : SchemeKind) (cs : List Char) : Option Url := do
  let (authority, rest) := splitBefore (fun c => kind.isSlash c || isPathEnd c) cs
  let authority ← authority? kind rest.isEmpty authority
  let (path, rest) := splitBefore isPathEnd rest
  let (query, fragment) := queryAndFragment kind rest
  return {
    scheme, username := authority.username, password := authority.password
    host := some authority.host, port := authority.port
    path := pathAfterHost kind (authority.after ++ path)
    query, fragment }

def withoutHost (scheme : String) (host : Option Host) (path : UrlPath)
    (rest : Option String × Option String) : Url :=
  { scheme, username := "", password := "", host, port := none, path,
    query := rest.1, fragment := rest.2 }

/-- The host of a file: a drive is none, and the local host is empty. -/
def fileHost? (cs : List Char) : Option (Option Host) :=
  if isDrive cs then some none
  else if cs = [] then some (some (.name ""))
  else (domainHost? cs).map fun host => some (if host = .name "localhost" then .name "" else host)

def file? (cs : List Char) : Option Url :=
  let (place, rest) := splitBefore isPathEnd cs
  let ending := queryAndFragment .file rest
  match place with
  | a :: b :: after =>
    if SchemeKind.isSlash .file a && SchemeKind.isSlash .file b then
      let (hostText, path) := splitBefore (SchemeKind.isSlash .file) after
      (fileHost? hostText).map fun host =>
        match host with
        | some host =>
          withoutHost "file" (some host) (pathAfterHost .file path) ending
        | none =>
          withoutHost "file" (some (.name "")) (.segments (pathSegments .file after)) ending
    else some (withoutHost "file" (some (.name "")) (pathAfterHost .file place) ending)
  | _ => some (withoutHost "file" (some (.name "")) (pathAfterHost .file place) ending)

def other? (scheme : String) (cs : List Char) : Option Url :=
  match cs with
  | '/' :: '/' :: rest => afterSlashes? scheme .other rest
  | _ =>
    let (path, rest) := splitBefore isPathEnd cs
    let ending := queryAndFragment .other rest
    match path with
    | '/' :: rest => some (withoutHost scheme none (.segments (pathSegments .other rest)) ending)
    | _ =>
      some (withoutHost scheme none (.plain (.ofList (percentEncode inControls path))) ending)

def ofText? (text : String) : Option Url := do
  let (scheme, rest) ← scheme? (clean text.toList)
  let kind := SchemeKind.of scheme
  match kind with
  | .web _ => afterSlashes? scheme kind (rest.dropWhile kind.isSlash)
  | .file => file? rest
  | .other => other? scheme rest

end BuildController.Url
