import AccountSync.Error
import AccountSync.Identity.Assertion
import AccountSync.Text.LetterCase
import AccountSync.Url.Parser

/-!
The configuration of a sync client. Fields that are not given have default values.
-/

set_option autoImplicit false
set_option relaxedAutoImplicit false

namespace AccountSync

/-- Servers, lifetimes and intervals. Lengths of time are in seconds. -/
structure Config where
  identityServerUrl : String := "https://accounts.driftsync.io/v1"
  tokenServerUrl : String := "https://token.driftsync.io/1.0/sync/1.5"
  verifierUrl : String := "https://verifier.driftsync.io/v2"
  audience : String := ""
  certificateDuration : UInt64 := 43200
  assertionDuration : UInt64 := 900
  schedulerRateLimit : UInt64 := 30
  singleDeviceInterval : UInt64 := 86400
  multiDeviceInterval : UInt64 := 3600
  unverifiedInterval : UInt64 := 300
  maxLoginSteps : UInt64 := 8
  connectTimeout : UInt64 := 30
  requestTimeout : UInt64 := 60
  debugAssertions : Bool := false
  deriving DecidableEq, Repr

namespace Config

/-- Fails unless the text of a field is an absolute URL. -/
def checkUrl (name value : String) : Except SyncError Unit :=
  match Url.parse value with
  | .ok _ => .ok ()
  | .error f => .error (.config (name ++ ": " ++ f.message))

/-- Checks that the servers have URLs and that lifetimes and the step bound are positive. -/
def validate (c : Config) : Except SyncError Unit := do
  checkUrl "identity_server_url" c.identityServerUrl
  checkUrl "token_server_url" c.tokenServerUrl
  checkUrl "verifier_url" c.verifierUrl
  if c.certificateDuration = 0 ∨ c.assertionDuration = 0 then
    throw (.config "certificate and assertion durations must be positive")
  if c.maxLoginSteps = 0 then throw (.config "max_login_steps must be at least 1")

def tokenServer (c : Config) : Except SyncError Url :=
  (Url.parse c.tokenServerUrl).mapError .url

/-- The audience of assertions: the configured one, or the origin of the token server. -/
def assertionAudience (c : Config) : Except SyncError String :=
  if c.audience.isEmpty then c.tokenServer.map Url.origin else .ok c.audience

def tokenServerHost (c : Config) : Except SyncError String := do
  let u ← c.tokenServer
  match u.host? with
  | some h => pure (Text.LetterCase.lowerAscii h)
  | none => throw (.config "token_server_url has no host")

/-- A configuration whose servers all stand under one URL, with short timeouts. -/
def forBaseUrl (url : String) : Config :=
  let url := Text.trimEndMatches '/' url
  { identityServerUrl := url ++ "/v1"
    tokenServerUrl := url ++ "/1.0/sync/1.5"
    verifierUrl := url ++ "/v2"
    connectTimeout := 5
    requestTimeout := 10 }

end Config

end AccountSync
