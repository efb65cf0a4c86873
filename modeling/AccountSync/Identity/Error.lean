import AccountSync.Encoding.Base64

/-!
What can go wrong with keys, signatures and signed claims.
-/

set_option autoImplicit false
set_option relaxedAutoImplicit false

namespace AccountSync

inductive CryptoError
  | invalidKey (detail : String)
  | signing (detail : String)
  | verification (detail : String)
  | malformedAssertion (detail : String)
  | expired (expiry now : Nat)
  | audienceMismatch (expected actual : String)
  | keyDerivation (detail : String)
  | serialization
  | encoding (fault : Encoding.Base64.Fault)
  deriving DecidableEq, Repr

/-- What is said of a JSON text that does not fit: not where, nor in what way. -/
def Json.fault : String := "<json error>"

def CryptoError.message : CryptoError → String
  | .invalidKey s => "invalid key material: " ++ s
  | .signing s => "signing failed: " ++ s
  | .verification s => "signature verification failed: " ++ s
  | .malformedAssertion s => "malformed assertion: " ++ s
  | .expired expiry now => s!"assertion or certificate expired at {expiry} (now {now})"
  | .audienceMismatch expected actual => s!"audience mismatch: expected {expected}, got {actual}"
  | .keyDerivation s => "key derivation failed: " ++ s
  | .serialization => "serialization error: " ++ Json.fault
  | .encoding f => "encoding error: " ++ f.message

end AccountSync
