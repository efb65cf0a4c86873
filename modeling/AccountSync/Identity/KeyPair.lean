import AccountSync.Curve.Signature
import AccountSync.Encoding.Base64
import AccountSync.Identity.Error
import AccountSync.Key32
import AccountSync.Text.Mask

/-!
Signing key pairs: a seed, and the public key that it determines. A public key travels in a descriptor
that names the algorithm; `publicKeyOfDescriptor` reads it back.
-/

set_option autoImplicit false
set_option relaxedAutoImplicit false

namespace AccountSync

def signatureAlgorithm : String := "EdDSA"

/-- A signing key pair, given by its secret seed. -/
structure KeyPair where
  seed : Key32
  deriving DecidableEq, Inhabited

namespace KeyPair

def publicKey (p : KeyPair) : Key32 :=
  ⟨Curve.publicKey p.seed.bytes, Curve.length_publicKey _⟩

/-- Two pairs count as the same if their public halves agree. -/
def same (p q : KeyPair) : Bool :=
  p.publicKey = q.publicKey

def sign (p : KeyPair) (message : List UInt8) : List UInt8 :=
  Curve.sign p.seed.bytes message

/-- What others are shown of the pair. -/
def descriptor (p : KeyPair) : Json :=
  .object [("algorithm", .string signatureAlgorithm),
    ("publicKey", .string (Encoding.Base64.encode Encoding.Base64.urlSafe p.publicKey.bytes))]

/-- The pair as it is stored. -/
def json (p : KeyPair) : Json :=
  .object [("algorithm", .string signatureAlgorithm), ("secret", p.seed.json)]

def read : Json.Reader KeyPair := fun t => do
  let [algorithm, secret] ← Json.Reader.slots [["algorithm"], ["secret"]] t | none
  let algorithm ← Json.Reader.required Json.Reader.string algorithm
  let secret ← Json.Reader.required Json.Reader.string secret
  if algorithm = signatureAlgorithm then (Key32.ofHex? secret).map KeyPair.mk else none

def describe (p : KeyPair) : String :=
  Text.Describe.partly "SigningKeyPair" [("public", Text.quoted p.publicKey.hex)]

end KeyPair

def publicKeyOfDescriptor (v : Json) : Except CryptoError Key32 := do
  let some algorithm := (v.member? "algorithm").bind Json.string?
    | throw (.invalidKey "public key missing algorithm")
  if algorithm ≠ signatureAlgorithm then
    throw (.invalidKey ("unsupported public key algorithm: " ++ algorithm))
  let some encoded := (v.member? "publicKey").bind Json.string?
    | throw (.invalidKey "public key missing key bytes")
  let bs ← (Encoding.Base64.decode Encoding.Base64.urlSafe (Text.Utf8.bytes encoded)).mapError .encoding
  match Key32.ofBytes? bs with
  | some k => pure k
  | none => throw (.invalidKey s!"invalid public key length: expected 32, got {bs.length}")

/-- Why a signature is not accepted, as a failure: a key that is no point of the curve is the key's fault. -/
def CryptoError.ofRefusal : Curve.Refusal → CryptoError
  | .keyNotOnCurve => .invalidKey (Curve.Refusal.message .keyNotOnCurve)
  | r => .verification r.message

def verifySignature (key : Key32) (message signature : List UInt8) : Except CryptoError Unit :=
  (Curve.verify key.bytes message signature).mapError .ofRefusal

end AccountSync
