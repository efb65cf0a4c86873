import AccountSync.Config
import AccountSync.File
import AccountSync.Json.Shape

/-!
A configuration as JSON, in a text or in a file. One that is read has to pass `validate`.
-/

set_option autoImplicit false
set_option relaxedAutoImplicit false

namespace AccountSync.Config

def json (c : Config) : Json :=
  .object [
    ("identity_server_url", .string c.identityServerUrl),
    ("token_server_url", .string c.tokenServerUrl),
    ("verifier_url", .string c.verifierUrl),
    ("audience", .string c.audience),
    ("certificate_duration_secs", .nat c.certificateDuration.toNat),
    ("assertion_duration_secs", .nat c.assertionDuration.toNat),
    ("scheduler_rate_limit_secs", .nat c.schedulerRateLimit.toNat),
    ("single_device_interval_secs", .nat c.singleDeviceInterval.toNat),
    ("multi_device_interval_secs", .nat c.multiDeviceInterval.toNat),
    ("unverified_interval_secs", .nat c.unverifiedInterval.toNat),
    ("max_login_steps", .nat c.maxLoginSteps.toNat),
    ("connect_timeout_secs", .nat c.connectTimeout.toNat),
    ("request_timeout_secs", .nat c.requestTimeout.toNat),
    ("debug_assertions", .bool c.debugAssertions)]

def fieldNames : List String :=
  ["identity_server_url", "token_server_url", "verifier_url", "audience", "certificate_duration_secs",
    "assertion_duration_secs", "scheduler_rate_limit_secs", "single_device_interval_secs",
    "multi_device_interval_secs", "unverified_interval_secs", "max_login_steps", "connect_timeout_secs",
    "request_timeout_secs", "debug_assertions"]

open Json.Reader in
/-- Reads a configuration; what is missing has its default value. -/
def read : Json.Reader Config := fun t => do
  let [identity, token, verifier, audience, certificate, assertion, rate, single, multi, unverified, steps,
    connect, request, debug] ← slots (fieldNames.map ([·])) t | none
  let base : Config := {}
  pure {
    identityServerUrl := ← withDefault string base.identityServerUrl identity
    tokenServerUrl := ← withDefault string base.tokenServerUrl token
    verifierUrl := ← withDefault string base.verifierUrl verifier
    audience := ← withDefault string base.audience audience
    certificateDuration := ← withDefault word64 base.certificateDuration certificate
    assertionDuration := ← withDefault word64 base.assertionDuration assertion
    schedulerRateLimit := ← withDefault word64 base.schedulerRateLimit rate
    singleDeviceInterval := ← withDefault word64 base.singleDeviceInterval single
    multiDeviceInterval := ← withDefault word64 base.multiDeviceInterval multi
    unverifiedInterval := ← withDefault word64 base.unverifiedInterval unverified
    maxLoginSteps := ← withDefault word64 base.maxLoginSteps steps
    connectTimeout := ← withDefault word64 base.connectTimeout connect
    requestTimeout := ← withDefault word64 base.requestTimeout request
    debugAssertions := ← withDefault bool base.debugAssertions debug }

def ofText (text : String) : Except SyncError Config :=
  match Json.Reader.ofText read text with
  | none => .error .serialization
  | some c => do
    c.validate
    pure c

def ofFile (path : String) : File.Talk (Except SyncError Config) := do
  match ← Dialogue.question (File.Question.read path) with
  | none => pure (.error (.config (File.fault "" path)))
  | some text => pure (ofText text)

end AccountSync.Config
