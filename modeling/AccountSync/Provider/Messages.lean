import AccountSync.Json.Shape

/-!
What the identity provider answers, and how it is written as JSON.
-/

set_option autoImplicit false
set_option relaxedAutoImplicit false

namespace AccountSync.Provider

open Json.Reader

structure LoginResponse where
  uid : String
  sessionToken : String
  keyFetchToken : String
  verified : Bool
  deriving DecidableEq

/-- The account's keys as hexadecimal text, the second one wrapped. -/
structure KeysResponse where
  kA : String
  wrapKB : String
  deriving DecidableEq

structure CertificateResponse where
  certificate : String
  deriving DecidableEq

/-- Whether the account's email address has been verified. -/
structure EmailStatus where
  email : Option String
  verified : Bool
  deriving DecidableEq

/-- What an error response says; any part of it may be missing. -/
structure ErrorBody where
  code : Option UInt16 := none
  errno : Option UInt32 := none
  error : Option String := none
  message : Option String := none
  deriving DecidableEq

def LoginResponse.json (r : LoginResponse) : Json :=
  .object [("uid", .string r.uid), ("sessionToken", .string r.sessionToken),
    ("keyFetchToken", .string r.keyFetchToken), ("verified", .bool r.verified)]

def LoginResponse.read : Json.Reader LoginResponse := fun t => do
  let [uid, session, keyFetch, verified] ←
    slots [["uid"], ["sessionToken"], ["keyFetchToken"], ["verified"]] t | none
  pure ⟨← required string uid, ← required string session, ← required string keyFetch,
    ← withDefault bool false verified⟩

def KeysResponse.json (r : KeysResponse) : Json :=
  .object [("kA", .string r.kA), ("wrapKB", .string r.wrapKB)]

def KeysResponse.read : Json.Reader KeysResponse := fun t => do
  let [kA, wrapKB] ← slots [["kA"], ["wrapKB"]] t | none
  pure ⟨← required string kA, ← required string wrapKB⟩

def CertificateResponse.json (r : CertificateResponse) : Json :=
  .object [("cert", .string r.certificate)]

def CertificateResponse.read : Json.Reader CertificateResponse := fun t => do
  let [cert] ← slots [["cert"]] t | none
  pure ⟨← required string cert⟩

def EmailStatus.json (r : EmailStatus) : Json :=
  .object [("email", Json.ofOption .string r.email), ("verified", .bool r.verified)]

def EmailStatus.read : Json.Reader EmailStatus := fun t => do
  let [email, verified] ← slots [["email"], ["verified"]] t | none
  pure ⟨← optional string email, ← required bool verified⟩

def ErrorBody.json (r : ErrorBody) : Json :=
  .object [("code", Json.ofOption (fun n => .nat n.toNat) r.code),
    ("errno", Json.ofOption (fun n => .nat n.toNat) r.errno),
    ("error", Json.ofOption .string r.error), ("message", Json.ofOption .string r.message)]

def ErrorBody.read : Json.Reader ErrorBody := fun t => do
  let [code, errno, error, message] ← slots [["code"], ["errno"], ["error"], ["message"]] t | none
  pure ⟨← optional word16 code, ← optional word32 errno, ← optional string error,
    ← optional string message⟩

end AccountSync.Provider
