import AccountSync.Http.Message
import AccountSync.Json.Shape
import AccountSync.Provider.Request

/-!
Asking the identity provider over HTTP. Tokens go into a header field; an error status becomes an error
with the provider's own number and wording, as far as the body tells them.
-/

set_option autoImplicit false
set_option relaxedAutoImplicit false

namespace AccountSync.Provider

def bearer (token : String) : Http.Headers :=
  [Http.authorization "Bearer" token]

def Request.message (base : String) : Request → Except Http.Failure Http.Request
  | .login email authPW =>
    Http.Request.make .post (base ++ "/account/login") []
      (some (.ofMembers [("email", .string email), ("authPW", authPW.json)]))
  | .fetchKeys token => Http.Request.make .get (base ++ "/account/keys") (bearer token)
  | .signCertificate token key duration =>
    Http.Request.make .post (base ++ "/certificate/sign") (bearer token)
      (some (.ofMembers [("publicKey", key), ("duration", .nat duration)]))
  | .emailStatus token => Http.Request.make .get (base ++ "/recovery_email/status") (bearer token)
  | .resendCode token => Http.Request.make .post (base ++ "/recovery_email/resend_code") (bearer token) (some (.object []))

/-- The error that a response with an error status stands for. -/
def refusal (r : Http.Response) : SyncError :=
  let body := (ErrorBody.read.ofText r.text).getD {}
  let message := (body.message <|> body.error).getD ((Http.reason? r.status).getD "request failed")
  .remote r.status (body.errno.getD 0) message

def decode {α : Type} (read : Json.Reader α) (r : Http.Response) : Except SyncError α :=
  match read.ofText r.text with
  | some a => .ok a
  | none => .error (.malformed Json.fault)

def Request.interpret (q : Request) (r : Http.Response) : Except SyncError q.Answer :=
  if Http.isSuccess r.status then
    match q with
    | .login .. => decode LoginResponse.read r
    | .fetchKeys _ => decode KeysResponse.read r
    | .signCertificate .. => (decode CertificateResponse.read r).map (·.certificate)
    | .emailStatus _ => decode EmailStatus.read r
    | .resendCode _ => .ok ()
  else .error (refusal r)

def Request.send (url : String) (q : Request) : Http.Talk (Except SyncError q.Answer) := do
  match ← Http.send (q.message (Text.trimEndMatches '/' url)) with
  | .error e => pure (.error e)
  | .ok response => pure (q.interpret response)

end AccountSync.Provider
