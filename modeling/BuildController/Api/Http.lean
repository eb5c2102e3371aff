import BuildController.ControlPlane.Error
import BuildController.Json.Basic
import BuildController.Text.Blank
import BuildController.Url.Parser

/-! HTTP as far as the control plane is concerned: requests that carry JSON, and responses whose
status says what became of a request. -/
namespace BuildController

inductive HttpMethod
  | get
  | post
  | put
  deriving DecidableEq, Repr

def HttpMethod.text : HttpMethod → String
  | .get => "GET"
  | .post => "POST"
  | .put => "PUT"

structure HttpRequest where
  method : HttpMethod
  url : Url
  authorization : Option String
  body : Option Json

/-- The most characters of a URL to which a request can be sent. -/
def longestUrl : Nat := 65534

def HttpRequest.contentType (request : HttpRequest) : Option String :=
  request.body.map fun _ => "application/json"

/-- What the transport has in the end for a request, once it has followed all redirects. -/
structure HttpResponse where
  status : Nat
  body : String
  deriving DecidableEq

namespace HttpResponse

def isSuccess (response : HttpResponse) : Bool := 200 ≤ response.status && response.status < 300

/-- The content of the response. Responses of some statuses never have any. -/
def content (response : HttpResponse) : String :=
  if response.status = 204 ∨ response.status = 304 then "" else response.body

/-- The content as a message, which does not begin with a byte order mark. -/
def message (response : HttpResponse) : String :=
  match response.content.toList with
  | '\ufeff' :: rest => .ofList rest
  | cs => .ofList cs

/-- The error that a response reports about an object with the given path. -/
def error (path : String) (response : HttpResponse) : RequestError :=
  match response.status with
  | 404 => .notFound path
  | 409 => .conflict response.message
  | code => .status code response.message

end HttpResponse

def undecodableMessage : String :=
  "Failed to parse JSON response: error decoding response body"

def isHeaderChar (c : Char) : Bool := c = '\t' || (0x20 ≤ c.toNat && c.toNat ≠ 0x7F)

/-- The header that presents a token, if the token can stand in one. Blanks at its end are lost. -/
def bearer? (token : String) : Option String :=
  if token.toList.all isHeaderChar then some (Text.trim ("Bearer " ++ token)) else none

end BuildController
