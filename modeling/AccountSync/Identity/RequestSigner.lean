import AccountSync.Encoding.Base64
import AccountSync.Encoding.Hex
import AccountSync.Hash.Hmac
import AccountSync.Text.Mask
import AccountSync.Text.LetterCase

/-!
Signed storage requests. The signature covers the time, a nonce, the method and where the request
goes, one to a line.
-/

set_option autoImplicit false
set_option relaxedAutoImplicit false

namespace AccountSync

/-- What signs requests: a token's id and key, and the clock skew that was known when it was made, in
seconds. -/
structure RequestSigner where
  id : String
  key : List UInt8
  skew : Int
  deriving DecidableEq

structure RequestTarget where
  method : String
  path : String
  host : String
  port : UInt16
  deriving DecidableEq

namespace RequestSigner

def signedText (timestamp : Int) (nonce : String) (r : RequestTarget) : String :=
  s!"hawk.1.header\n{timestamp}\n{nonce}\n" ++ Text.LetterCase.upper r.method ++ "\n" ++ r.path ++ "\n"
    ++ Text.LetterCase.lower r.host ++ s!"\n{r.port.toNat}\n\n\n"

def mac (s : RequestSigner) (text : String) : String :=
  Encoding.Base64.encode Encoding.Base64.standard (Hash.hmac s.key (Text.Utf8.bytes text))

/-- The authorization header of a request at a time in seconds by the local clock. -/
def header (s : RequestSigner) (r : RequestTarget) (now : Int) (nonce : String) : String :=
  let timestamp := now + s.skew
  s!"Hawk id=\"" ++ s.id ++ s!"\", ts=\"{timestamp}\", nonce=\"" ++ nonce ++ "\", mac=\""
    ++ s.mac (signedText timestamp nonce r) ++ "\""

/-- A nonce of sixteen digits, from eight bytes drawn at random. -/
def nonceOfBytes (drawn : List UInt8) : String :=
  Encoding.Hex.encode (drawn.take 8)

def describe (s : RequestSigner) : String :=
  Text.Describe.partly "RequestSigner" [("id", Text.quoted s.id), ("skew_secs", toString s.skew)]

end RequestSigner

end AccountSync
