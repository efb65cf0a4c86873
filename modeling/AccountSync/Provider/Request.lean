import AccountSync.Error
import AccountSync.Key32
import AccountSync.Provider.Messages

/-!
What a client asks of the identity provider.
-/

set_option autoImplicit false
set_option relaxedAutoImplicit false

namespace AccountSync.Provider

/-- A request. The lifetime of a certificate is in milliseconds. -/
inductive Request
  | login (email : String) (authPW : Key32)
  | fetchKeys (token : String)
  | signCertificate (token : String) (key : Json) (duration : Nat)
  | emailStatus (token : String)
  | resendCode (token : String)

/-- What is answered to a request that succeeds. -/
abbrev Request.Answer : Request → Type
  | .login .. => LoginResponse
  | .fetchKeys _ => KeysResponse
  | .signCertificate .. => String
  | .emailStatus _ => EmailStatus
  | .resendCode _ => Unit

end AccountSync.Provider
