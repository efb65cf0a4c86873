import AccountSync.Identity.SignedToken
import AccountSync.Instant

/-!
Certificates and backed assertions. A certificate is a token of the identity provider that binds a
public key to a principal; an assertion is a token of that key for one audience; a backed assertion is
both, with a tilde between them. `BackedAssertion.verify` checks the whole chain at an instant.
-/

set_option autoImplicit false
set_option relaxedAutoImplicit false

namespace AccountSync

/-- What a certificate says. Instants are milliseconds since the epoch. -/
structure CertificateClaims where
  issuer : String
  principal : String
  publicKey : Json
  issuedAt : Instant
  expiry : Instant

structure AssertionClaims where
  audience : String
  issuer : String
  issuedAt : Instant
  expiry : Instant
  deriving DecidableEq

namespace CertificateClaims

def json (c : CertificateClaims) : Json :=
  .object [("iss", .string c.issuer), ("principal", .string c.principal), ("public-key", c.publicKey),
    ("iat", .nat c.issuedAt.toNat), ("exp", .nat c.expiry.toNat)]

/-- Reads the claims; the key is kept as it stands, one bracket deep. -/
def read : Json.Reader CertificateClaims := fun t => do
  let [iss, principal, key, iat, exp] ←
    Json.Reader.slots [["iss"], ["principal"], ["public-key"], ["iat"], ["exp"]] t | none
  pure {
    issuer := ← Json.Reader.required Json.Reader.string iss
    principal := ← Json.Reader.required Json.Reader.string principal
    publicKey := ← Json.Reader.required (Json.Tree.value? (Json.Tree.maxDepth - 1)) key
    issuedAt := ← Json.Reader.required Json.Reader.word64 iat
    expiry := ← Json.Reader.required Json.Reader.word64 exp }

end CertificateClaims

namespace AssertionClaims

def json (c : AssertionClaims) : Json :=
  .object [("aud", .string c.audience), ("iss", .string c.issuer), ("iat", .nat c.issuedAt.toNat),
    ("exp", .nat c.expiry.toNat)]

def read : Json.Reader AssertionClaims := fun t => do
  let [aud, iss, iat, exp] ← Json.Reader.slots [["aud"], ["iss"], ["iat"], ["exp"]] t | none
  pure {
    audience := ← Json.Reader.required Json.Reader.string aud
    issuer := ← Json.Reader.required Json.Reader.string iss
    issuedAt := ← Json.Reader.required Json.Reader.word64 iat
    expiry := ← Json.Reader.required Json.Reader.word64 exp }

end AssertionClaims

/-- The claims of a certificate and of an assertion backed by it. -/
structure BackedAssertion where
  certificate : CertificateClaims
  assertion : AssertionClaims

def defaultAssertionIssuer : String := "127.0.0.1"

/-- The identity provider's half: a certificate for a descriptor that holds a public key. -/
def issueCertificate (pair : KeyPair) (issuer principal : String) (descriptor : Json)
    (issuedAt : Instant) (duration : Nat) : Except CryptoError String := do
  let _ ← publicKeyOfDescriptor descriptor
  let claims : CertificateClaims :=
    ⟨issuer, principal, descriptor, issuedAt, after issuedAt duration⟩
  pure (String.ofList (SignedToken.issue pair claims.json))

/-- An assertion for an audience, behind the certificate that backs it. -/
def generateAssertion (pair : KeyPair) (certificate audience issuer : String) (issuedAt : Instant)
    (duration : Nat) : Except CryptoError String :=
  if certificate.isEmpty then .error (.malformedAssertion "certificate must not be empty")
  else
    let claims : AssertionClaims := ⟨audience, issuer, issuedAt, after issuedAt duration⟩
    .ok (String.ofList (certificate.toList ++ '~' :: SignedToken.issue pair claims.json))

/-- What a certificate says. Its signature is not checked. -/
def decodeCertificate (certificate : String) : Except CryptoError CertificateClaims := do
  let t ← SignedToken.openToken CertificateClaims.read certificate.toList
  pure t.claims

def certificateExpiry (certificate : String) : Except CryptoError Instant := do
  let claims ← decodeCertificate certificate
  pure claims.expiry

namespace BackedAssertion

def json (b : BackedAssertion) : Json :=
  .object [("certificate", b.certificate.json), ("assertion", b.assertion.json)]

/-- The certificate and the assertion: what stands before and after the first tilde. -/
def split (backed : String) : Except CryptoError (List Char × List Char) :=
  match Text.splitOnce? '~' backed.toList with
  | some parts => .ok parts
  | none => .error (.malformedAssertion "missing certificate separator")

def decode (backed : String) : Except CryptoError BackedAssertion := do
  let (certificate, assertion) ← split backed
  let certificate ← SignedToken.openToken CertificateClaims.read certificate
  let assertion ← SignedToken.openToken AssertionClaims.read assertion
  pure ⟨certificate.claims, assertion.claims⟩

def checkExpiry (expiry : Instant) (now : Nat) : Except CryptoError Unit :=
  if expiry.toNat ≤ now then .error (.expired expiry.toNat now) else .ok ()

/-- The claims, after checking the certificate under the issuer's key, the assertion under the key that
the certificate holds, the audience, and that neither has expired. -/
def verify (backed : String) (issuerKey : Key32) (audience : String) (now : Nat) :
    Except CryptoError BackedAssertion := do
  let (certificate, assertion) ← split backed
  let certificate ← SignedToken.openToken CertificateClaims.read certificate
  certificate.verify issuerKey
  checkExpiry certificate.claims.expiry now
  let subjectKey ← publicKeyOfDescriptor certificate.claims.publicKey
  let assertion ← SignedToken.openToken AssertionClaims.read assertion
  assertion.verify subjectKey
  if assertion.claims.audience ≠ audience then
    throw (.audienceMismatch audience assertion.claims.audience)
  checkExpiry assertion.claims.expiry now
  pure ⟨certificate.claims, assertion.claims⟩

end BackedAssertion

end AccountSync
