import AccountSync.Identity.KeyPair
import AccountSync.Json.Printer
import AccountSync.Text.Split

/-!
Signed tokens: a header, the claims and a signature over both, each as unpadded base64 text, with dots
between them. The header names the algorithm.
-/

set_option autoImplicit false
set_option relaxedAutoImplicit false

namespace AccountSync.SignedToken

def segment (bs : List UInt8) : List Char :=
  Encoding.Base64.encodeChars Encoding.Base64.urlSafe bs

def header : Json :=
  .object [("alg", .string signatureAlgorithm)]

def documentSegment (j : Json) : List Char :=
  segment (Text.Utf8.encode j.compactChars)

/-- The part of a token that is signed. -/
def signedPart (claims : Json) : List Char :=
  documentSegment header ++ '.' :: documentSegment claims

def issue (pair : KeyPair) (claims : Json) : List Char :=
  signedPart claims ++ '.' :: segment (pair.sign (Text.Utf8.encode (signedPart claims)))

structure Opened (α : Type) where
  claims : α
  signedText : List Char
  signature : List UInt8

def openSegment (part : List Char) : Except CryptoError (List UInt8) :=
  (Encoding.Base64.decode Encoding.Base64.urlSafe (Text.Utf8.encode part)).mapError .encoding

def readSegment {α : Type} (r : Json.Reader α) (part : List Char) : Except CryptoError α := do
  let bs ← openSegment part
  match Json.Reader.ofBytes r bs with
  | some a => pure a
  | none => throw .serialization

def readHeader : Json.Reader String := fun t => do
  let [alg] ← Json.Reader.slots [["alg"]] t | none
  Json.Reader.required Json.Reader.string alg

/-- Takes a token apart without checking its signature. -/
def openToken {α : Type} (r : Json.Reader α) (token : List Char) : Except CryptoError (Opened α) :=
  match Text.splitAll '.' token with
  | [header, payload, signature] => do
    let algorithm ← readSegment readHeader header
    if algorithm ≠ signatureAlgorithm then
      throw (.malformedAssertion ("unsupported algorithm: " ++ algorithm))
    let claims ← readSegment r payload
    let signature ← openSegment signature
    pure ⟨claims, header ++ '.' :: payload, signature⟩
  | _ => .error (.malformedAssertion "expected three dot-separated segments")

def Opened.verify {α : Type} (t : Opened α) (key : Key32) : Except CryptoError Unit :=
  verifySignature key (Text.Utf8.encode t.signedText) t.signature

end AccountSync.SignedToken
