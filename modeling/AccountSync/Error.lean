import AccountSync.Identity.Error
import AccountSync.Url.Basic

/-!
What can go wrong in a sync attempt, and which failures tell something about the account: that its
credentials are no good, that it is not verified, or that the client is too old.
-/

set_option autoImplicit false
set_option relaxedAutoImplicit false

namespace AccountSync

inductive Http.Failure
  /-- It could not be put together. -/
  | unsendable
  /-- Its URL has no host that could be asked. -/
  | unreachable (url : String)
  /-- The connection was closed. -/
  | unanswered (url : String)
  deriving DecidableEq, Repr

def Http.Failure.message : Http.Failure → String
  | .unsendable => "builder error"
  | .unreachable url => "builder error for url (" ++ url ++ ")"
  | .unanswered url => "error sending request for url (" ++ url ++ ")"

inductive SyncError
  /-- The identity provider answered with an error. -/
  | remote (status : UInt16) (errno : UInt32) (message : String)
  | tokenRejected (message : String)
  | tokenServer (status : UInt16) (message : String)
  | authRequired
  | invalidState (expected actual : String)
  | storage (detail : String)
  | malformed (detail : String)
  | serialization
  | http (failure : Http.Failure)
  | crypto (error : CryptoError)
  | url (fault : Url.Fault)
  | config (detail : String)
  deriving DecidableEq, Repr

namespace SyncError

/-- The provider's number for a token that is no longer valid. -/
def errnoInvalidToken : UInt32 := 110

/-- The provider's number for an account that is not verified yet. -/
def errnoUnverified : UInt32 := 104

/-- The provider's number for an endpoint that was retired. -/
def errnoRetired : UInt32 := 116

def message : SyncError → String
  | .remote status errno text => s!"identity provider error {status.toNat} (errno {errno.toNat}): " ++ text
  | .tokenRejected text => "token server rejected credentials: " ++ text
  | .tokenServer status text => s!"token server error {status.toNat}: " ++ text
  | .authRequired => "authentication required"
  | .invalidState expected actual => "account is in state " ++ actual ++ ", expected " ++ expected
  | .storage detail => "account store error: " ++ detail
  | .malformed detail => "malformed response: " ++ detail
  | .serialization => "serialization error: " ++ Json.fault
  | .http f => "HTTP error: " ++ f.message
  | .crypto e => "crypto error: " ++ e.message
  | .url f => "invalid URL: " ++ f.message
  | .config detail => "invalid configuration: " ++ detail

/-- The server says that the credentials are no longer any good. -/
def isInvalidAuthentication : SyncError → Bool
  | .remote status errno _ => status = 401 || errno = errnoInvalidToken
  | .tokenRejected _ => true
  | _ => false

/-- The account exists but has not been verified. -/
def isUnverified : SyncError → Bool
  | .remote _ errno _ => errno = errnoUnverified
  | _ => false

/-- The server no longer speaks this client's version of the protocol. -/
def isUpgradeRequired : SyncError → Bool
  | .remote _ errno _ => errno = errnoRetired
  | _ => false

def isNetwork : SyncError → Bool
  | .http _ => true
  | _ => false

end SyncError

end AccountSync
