import AccountSync.Dialogue
import AccountSync.Encoding.Base64
import AccountSync.Error
import AccountSync.Http.Header
import AccountSync.Http.Status
import AccountSync.Instant
import AccountSync.Json.Basic
import AccountSync.Text.Utf8
import AccountSync.Url.Parser

/-!
Requests and responses. A request is put together from the text of a URL; its user and password are sent
in a header field and are no part of the URL that is asked. A server may leave a request unanswered.
-/

set_option autoImplicit false
set_option relaxedAutoImplicit false

namespace AccountSync.Http

inductive Method
  | get | post
  deriving DecidableEq, Repr

def Method.text : Method → String
  | .get => "GET"
  | .post => "POST"

/-- A request that can be sent. A body is a JSON document. -/
structure Request where
  method : Method
  url : Url
  headers : Headers
  body : Option Json

structure Response where
  status : UInt16
  headers : Headers := []
  content : List UInt8 := []

/-- The bytes of the body, none where the status allows none. -/
def Response.body (r : Response) : List UInt8 :=
  if isBodiless r.status then [] else r.content

def Response.text (r : Response) : String :=
  Text.Utf8.lossy r.body

def Header.ofText (name value : String) : Header :=
  ⟨name, Text.Utf8.bytes value⟩

def authorization (scheme credentials : String) : Header :=
  .ofText "authorization" (scheme ++ " " ++ credentials)

/-- A part of a URL without percent signs. -/
def plain (part : String) : String :=
  Text.Utf8.lossy (Url.Percent.decode (Text.Utf8.bytes part))

def userField (u : Url) : Headers :=
  match u.authority with
  | some a =>
    if a.username.isEmpty ∧ a.password.isNone then []
    else
      let credentials := plain a.username ++ ":" ++ (a.password.map plain).getD ""
      [authorization "Basic" (Encoding.Base64.encode Encoding.Base64.standard (Text.Utf8.bytes credentials))]
  | none => []

def Request.make (method : Method) (url : String) (headers : Headers) (body : Option Json := none) :
    Except Failure Request :=
  match Url.parse url with
  | .error _ => .error .unsendable
  | .ok u =>
    let request : Request := ⟨method, u.withoutUser, userField u ++ headers, body⟩
    if u.host?.isNone then .error (.unreachable u.text)
    else if ¬ headers.all Header.isAllowed then .error .unsendable
    else if u.scheme ≠ "http" ∧ u.scheme ≠ "https" then .error (.unreachable request.url.text)
    else .ok request

inductive Question
  | send (request : Request)
  | now

abbrev Question.Answer : Question → Type
  | .send _ => Option Response
  | .now => Instant

abbrev Talk := Dialogue Question Question.Answer

def send : Except Failure Request → Talk (Except SyncError Response)
  | .error f => pure (.error (.http f))
  | .ok request => do
    match ← Dialogue.question (Question.send request) with
    | some response => pure (.ok response)
    | none => pure (.error (.http (.unanswered request.url.text)))

end AccountSync.Http
