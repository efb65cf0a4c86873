import AccountSync.Http.Message
import AccountSync.Http.Signal
import AccountSync.TokenServer.Messages

/-!
Trading an assertion for credentials at the token server. Whatever the status, the requests to slow down,
the server's time and its message for the user are handed on.
-/

set_option autoImplicit false
set_option relaxedAutoImplicit false

namespace AccountSync.TokenServer

structure Response where
  status : UInt16
  backoff : Http.BackoffSignal
  serverTimestamp : Option Instant
  alert : Option String
  result : Except SyncError Token

/-- The token that a text says: its endpoint has to be a URL with a host, and its id and its key may not
be empty. -/
def Token.ofText (text : String) : Except SyncError Token :=
  match Token.read.ofText text with
  | none => .error (.malformed Json.fault)
  | some token =>
    match Url.parse token.endpoint with
    | .error f => .error (.malformed ("api_endpoint: " ++ f.message))
    | .ok endpoint =>
      if endpoint.host?.isNone then .error (.malformed "api_endpoint has no host")
      else if token.id.isEmpty ∨ token.key.isEmpty then
        .error (.malformed "token id and key must be present")
      else .ok token

def resultOf (r : Http.Response) : Except SyncError Token :=
  if Http.isSuccess r.status then Token.ofText r.text
  else
    let summary := ((ErrorBody.read.ofText r.text).getD {}).summary
    if r.status = 401 then .error (.tokenRejected summary) else .error (.tokenServer r.status summary)

def Response.ofHttp (now : Instant) (r : Http.Response) : Response :=
  ⟨r.status, r.headers.backoffSignal r.status now, r.headers.serverTimestamp?, r.headers.alert?, resultOf r⟩

/-- The request that trades an assertion; the tag tells which key the client holds. -/
def request (url assertion clientState : String) : Except Http.Failure Http.Request :=
  Http.Request.make .post url [Http.authorization "BrowserID" assertion, .ofText "x-client-state" clientState,
    .ofText "accept" "application/json"]

/-- Trades an assertion. Only a server that does not answer makes it fail. -/
def exchange (url assertion clientState : String) : Http.Talk (Except SyncError Response) := do
  match ← Http.send (request url assertion clientState) with
  | .error e => pure (.error e)
  | .ok response =>
    let now ← Dialogue.question Http.Question.now
    pure (.ok (.ofHttp now response))

end AccountSync.TokenServer
