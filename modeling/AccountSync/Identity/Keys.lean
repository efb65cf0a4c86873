import AccountSync.Hash.Hmac
import AccountSync.Key32
import AccountSync.Text.Blank
import AccountSync.Text.LetterCase

/-!
Keys derived from the password and from the account key `kB`. The server holds `kB` wrapped; the key
that unwraps it never leaves the client.
-/

set_option autoImplicit false
set_option relaxedAutoImplicit false

namespace AccountSync

structure KeyBundle where
  encryptionKey : Key32
  hmacKey : Key32
  deriving DecidableEq

namespace KeyBundle

def json (b : KeyBundle) : Json :=
  .object [("encryption_key", b.encryptionKey.json), ("hmac_key", b.hmacKey.json)]

def read : Json.Reader KeyBundle := fun t => do
  let [enc, hmac] ← Json.Reader.slots [["encryption_key"], ["hmac_key"]] t | none
  pure ⟨← Json.Reader.required Key32.read enc, ← Json.Reader.required Key32.read hmac⟩

/-- A bundle shows nothing of itself. -/
def describe (_ : KeyBundle) : String := "KeyBundle \x7b .. \x7d"

def purpose : String := "driftsync/v1/storage"

def derive (kB : Key32) : KeyBundle :=
  let okm := Hash.derive 2 [] kB.bytes (Text.Utf8.bytes purpose)
  ⟨⟨okm.take 32, by simp [okm, Hash.length_derive]⟩, ⟨okm.drop 32, by simp [okm, Hash.length_derive]⟩⟩

end KeyBundle

/-- The tag that tells the token server which `kB` a client holds: half a digest of it, as digits. -/
def clientState (kB : Key32) : String :=
  Encoding.Hex.encode ((Hash.Sha256.digest kB.bytes).take 16)

/-- What a password is stretched into: a proof of it for the identity provider, and the key that
unwraps `kB`. -/
structure StretchedPassword where
  authPW : Key32
  unwrapKey : Key32
  deriving DecidableEq

namespace StretchedPassword

/-- An email address as it enters derived keys: without blanks around it and in small letters. -/
def normalEmail (email : String) : String :=
  Text.LetterCase.lower (Text.trim email)

/-- A key for one purpose, from a password and an email address in normal form. -/
def key (normal password purpose : String) : Key32 :=
  ⟨Hash.derive 1 (Text.Utf8.bytes normal) (Text.Utf8.bytes password) (Text.Utf8.bytes purpose),
    Hash.length_derive ..⟩

/-- Stretches a password, with the email address as the salt. -/
def ofPassword (email password : String) : StretchedPassword :=
  let normal := normalEmail email
  ⟨key normal password "driftsync/v1/authPW", key normal password "driftsync/v1/unwrapBkey"⟩

end StretchedPassword

/-- Recovers `kB` from its wrapped form. -/
def unwrapKB (wrapped unwrapKey : Key32) : Key32 :=
  wrapped.xor unwrapKey

end AccountSync
