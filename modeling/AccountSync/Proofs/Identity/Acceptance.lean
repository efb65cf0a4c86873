import AccountSync.Identity.Assertion
import AccountSync.Proofs.Encoding.Base64

/-!
What is known of a backed assertion that was accepted. Main statement: `accepted_backed`, that it is a certificate and
an assertion, both in the one form in which they can be written, each signed under the right key, for the audience and
not expired; that the claims are those that are read without a check; and that it is accepted at every earlier time.
-/

set_option autoImplicit false
set_option relaxedAutoImplicit false

namespace AccountSync

namespace Text.Utf8

private theorem encode_injective {a b : List Char} (h : encode a = encode b) : a = b := by
  have hscan := congrArg scan h
  rw [scan_encode, scan_encode] at hscan
  exact List.map_injective_iff.mpr (fun _ _ he => Option.some.inj he) hscan

end Text.Utf8

private theorem eq_encodeChars_of_decode {text : List Char} {bs : List UInt8}
    (h : (Encoding.Base64.decode Encoding.Base64.urlSafe (Text.Utf8.encode text)).mapError CryptoError.encoding =
      .ok bs) : text = Encoding.Base64.encodeChars Encoding.Base64.urlSafe bs :=
  Text.Utf8.encode_injective (Encoding.Base64.eq_of_decode (mapError_eq_ok_iff.mp h))

namespace SignedToken

/-- A token that opens: three parts with dots between them, each the one written form of its bytes. The header names
the algorithm, the second part says the claims, and the text that is signed is all before the last dot. -/
structure Opens {α : Type} (r : Json.Reader α) (token : List Char) (t : Opened α) : Prop where
  parts : ∃ header payload, Text.splitAll '.' token = [segment header, segment payload, segment t.signature] ∧
    Json.Reader.ofBytes readHeader header = some signatureAlgorithm ∧ Json.Reader.ofBytes r payload = some t.claims
  signed : token = t.signedText ++ '.' :: segment t.signature
  last : '.' ∉ segment t.signature

variable {α : Type} {r : Json.Reader α} {token part : List Char} {t : Opened α}

private theorem segment_of_openSegment {bs : List UInt8} (h : openSegment part = .ok bs) : part = segment bs :=
  eq_encodeChars_of_decode h

private theorem reads_of_readSegment {a : α} (h : readSegment r part = .ok a) :
    ∃ bs, part = segment bs ∧ Json.Reader.ofBytes r bs = some a := by
  obtain ⟨bs, hopen, h⟩ := exists_ok_of_bind h
  refine ⟨bs, segment_of_openSegment hopen, ?_⟩
  split at h
  · rename_i a' ha
    cases h
    exact ha
  · cases h

theorem opens_of_openToken (h : openToken r token = .ok t) : Opens r token t := by
  unfold openToken at h
  split at h
  · rename_i header payload signature hsplit
    obtain ⟨algorithm, hheader, h⟩ := exists_ok_of_bind h
    obtain ⟨header, rfl, hnames⟩ := reads_of_readSegment hheader
    dsimp only at h
    split at h
    · cases h
    · rename_i halgorithm
      obtain ⟨claims, hpayload, h⟩ := exists_ok_of_bind h
      obtain ⟨payload, rfl, hsays⟩ := reads_of_readSegment hpayload
      obtain ⟨bs, hsignature, h⟩ := exists_ok_of_bind h
      cases h
      obtain rfl := segment_of_openSegment hsignature
      -- The three parts are pinned by their bytes; the signed text is what the last of them leaves of the token.
      refine ⟨⟨header, payload, hsplit, ?_, hsays⟩, ?_, ?_⟩
      · rw [hnames, not_not.mp halgorithm]
      · have htoken := Text.intercalate_splitAll '.' token
        rw [hsplit] at htoken
        simpa [List.intercalate] using htoken.symm
      · have hmem : segment bs ∈ Text.splitAll '.' token := by simp [hsplit]
        exact Text.not_mem_of_mem_splitAll hmem
  · cases h

private theorem verify_eq_ok_iff {key : Key32} :
    t.verify key = .ok () ↔ Curve.verify key.bytes (Text.Utf8.encode t.signedText) t.signature = .ok () := by
  rw [Opened.verify, verifySignature, mapError_eq_ok_iff]

end SignedToken

/-- A descriptor that says a key: it names the algorithm, and beside it stands the one written form of the key. -/
structure Describes (descriptor : Json) (key : Key32) : Prop where
  algorithm : descriptor.member? "algorithm" = some (.string signatureAlgorithm)
  publicKey : descriptor.member? "publicKey" =
    some (.string (Encoding.Base64.encode Encoding.Base64.urlSafe key.bytes))

private theorem Json.eq_string_of_bind {j : Option Json} {text : String} (h : j.bind Json.string? = some text) :
    j = some (.string text) := by
  obtain ⟨j, rfl, hj⟩ := Option.bind_eq_some_iff.mp h
  unfold Json.string? at hj
  split at hj
  · cases hj
    rfl
  · cases hj

private theorem Key32.bytes_of_ofBytes? {bs : List UInt8} {key : Key32} (h : Key32.ofBytes? bs = some key) :
    key.bytes = bs := by
  unfold Key32.ofBytes? at h
  split at h
  · cases h
    rfl
  · cases h

theorem describes_of_publicKeyOfDescriptor {descriptor : Json} {key : Key32}
    (h : publicKeyOfDescriptor descriptor = .ok key) : Describes descriptor key := by
  unfold publicKeyOfDescriptor at h
  split at h
  · rename_i algorithm halgorithm
    dsimp only at h
    split at h
    · cases h
    · rename_i hname
      split at h
      · rename_i encoded hencoded
        obtain ⟨bs, hbs, h⟩ := exists_ok_of_bind h
        split at h
        · rename_i key' hkey
          cases h
          refine ⟨?_, ?_⟩
          · rw [Json.eq_string_of_bind halgorithm, not_not.mp hname]
          · rw [Json.eq_string_of_bind hencoded, Encoding.Base64.encode, Key32.bytes_of_ofBytes? hkey,
              ← eq_encodeChars_of_decode hbs, String.ofList_toList]
        · cases h
      · cases h
  · cases h

namespace BackedAssertion

open SignedToken (Opened Opens openToken)

variable {backed audience : String} {issuerKey : Key32} {now : Nat} {b : BackedAssertion}

theorem split_eq_ok_iff {certificate assertion : List Char} : split backed = .ok (certificate, assertion) ↔
    backed.toList = certificate ++ '~' :: assertion ∧ '~' ∉ certificate := by
  rw [← Text.splitOnce?_eq_some_iff, split]
  cases Text.splitOnce? '~' backed.toList <;> simp

theorem split_issued (pair : KeyPair) (claims : Json) (rest : List Char) :
    split (String.ofList (SignedToken.issue pair claims ++ '~' :: rest)) =
      .ok (SignedToken.issue pair claims, rest) := by
  refine split_eq_ok_iff.mpr ⟨String.toList_ofList, ?_⟩
  have hsegment : ∀ bs, '~' ∉ SignedToken.segment bs := Encoding.Base64.not_mem_encodeChars (by decide)
  simp [SignedToken.issue, SignedToken.signedPart, SignedToken.documentSegment, hsegment]

private theorem checkExpiry_eq_ok_iff {expiry : Instant} : checkExpiry expiry now = .ok () ↔ now < expiry.toNat := by
  unfold checkExpiry
  split <;> simp <;> omega

theorem verify_eq_ok_iff : verify backed issuerKey audience now = .ok b ↔
    ∃ certificate assertion, split backed = .ok (certificate, assertion) ∧
    ∃ c, openToken CertificateClaims.read certificate = .ok c ∧ c.verify issuerKey = .ok () ∧
      checkExpiry c.claims.expiry now = .ok () ∧
    ∃ key, publicKeyOfDescriptor c.claims.publicKey = .ok key ∧
    ∃ a, openToken AssertionClaims.read assertion = .ok a ∧ a.verify key = .ok () ∧
      a.claims.audience = audience ∧ checkExpiry a.claims.expiry now = .ok () ∧ ⟨c.claims, a.claims⟩ = b := by
  unfold verify
  simp only [bind_eq_ok_iff, Prod.exists]
  constructor
  · rintro ⟨certificate, assertion, hsplit, c, hc, ⟨⟩, hissued, ⟨⟩, hfresh, key, hkey, a, ha, ⟨⟩, hsigned, h⟩
    split at h
    · cases h
    · rename_i haudience
      obtain ⟨⟨⟩, hlast, h⟩ := exists_ok_of_bind h
      cases h
      exact ⟨certificate, assertion, hsplit, c, hc, hissued, hfresh, key, hkey, a, ha, hsigned,
        not_not.mp haudience, hlast, rfl⟩
  · rintro ⟨certificate, assertion, hsplit, c, hc, hissued, hfresh, key, hkey, a, ha, hsigned, haudience, hlast, rfl⟩
    refine ⟨certificate, assertion, hsplit, c, hc, (), hissued, (), hfresh, key, hkey, a, ha, (), hsigned, ?_⟩
    rw [if_neg (not_not.mpr haudience), hlast]
    rfl

/-- A backed assertion taken apart: the texts of its two tokens, what they say, and the key that the certificate
holds. -/
structure Parts where
  certificate : List Char
  assertion : List Char
  certified : Opened CertificateClaims
  asserted : Opened AssertionClaims
  subjectKey : Key32

def Parts.claims (p : Parts) : BackedAssertion := ⟨p.certified.claims, p.asserted.claims⟩

/-- The issuer's key vouches for the certificate, and the key that this holds for the assertion. Each signature is
over all of the token's text before its last dot. -/
structure Chain (backed : String) (issuerKey : Key32) (p : Parts) : Prop where
  cut : backed.toList = p.certificate ++ '~' :: p.assertion
  first : '~' ∉ p.certificate
  certificate : Opens CertificateClaims.read p.certificate p.certified
  issued : Curve.verify issuerKey.bytes (Text.Utf8.encode p.certified.signedText) p.certified.signature = .ok ()
  key : Describes p.certified.claims.publicKey p.subjectKey
  assertion : Opens AssertionClaims.read p.assertion p.asserted
  signed : Curve.verify p.subjectKey.bytes (Text.Utf8.encode p.asserted.signedText) p.asserted.signature = .ok ()

private theorem exists_chain (h : verify backed issuerKey audience now = .ok b) :
    ∃ p, Chain backed issuerKey p ∧ p.claims = b := by
  obtain ⟨certificate, assertion, hsplit, c, hc, hissued, -, key, hkey, a, ha, hsigned, -, -, hb⟩ :=
    verify_eq_ok_iff.mp h
  obtain ⟨hcut, hfirst⟩ := split_eq_ok_iff.mp hsplit
  refine ⟨⟨certificate, assertion, c, a, key⟩, ?_, hb⟩
  exact {
    cut := hcut
    first := hfirst
    certificate := SignedToken.opens_of_openToken hc
    issued := SignedToken.verify_eq_ok_iff.mp hissued
    key := describes_of_publicKeyOfDescriptor hkey
    assertion := SignedToken.opens_of_openToken ha
    signed := SignedToken.verify_eq_ok_iff.mp hsigned }

theorem decode_of_verify (h : verify backed issuerKey audience now = .ok b) : decode backed = .ok b := by
  obtain ⟨certificate, assertion, hsplit, c, hc, -, -, key, -, a, ha, -, -, -, rfl⟩ := verify_eq_ok_iff.mp h
  simp only [decode, bind_eq_ok_iff]
  exact ⟨(certificate, assertion), hsplit, c, hc, a, ha, rfl⟩

theorem expiry_of_verify (h : verify backed issuerKey audience now = .ok b) :
    now < b.certificate.expiry.toNat ∧ now < b.assertion.expiry.toNat := by
  obtain ⟨_, _, _, c, _, _, hcertified, _, _, a, _, _, _, hasserted, rfl⟩ := verify_eq_ok_iff.mp h
  exact ⟨checkExpiry_eq_ok_iff.mp hcertified, checkExpiry_eq_ok_iff.mp hasserted⟩

theorem verify_of_lt {other : Nat} (h : verify backed issuerKey audience now = .ok b)
    (hcertified : other < b.certificate.expiry.toNat) (hasserted : other < b.assertion.expiry.toNat) :
    verify backed issuerKey audience other = .ok b := by
  obtain ⟨certificate, assertion, hsplit, c, hc, hissued, -, key, hkey, a, ha, hsigned, haudience, -, rfl⟩ :=
    verify_eq_ok_iff.mp h
  exact verify_eq_ok_iff.mpr ⟨certificate, assertion, hsplit, c, hc, hissued, checkExpiry_eq_ok_iff.mpr hcertified, key,
    hkey, a, ha, hsigned, haudience, checkExpiry_eq_ok_iff.mpr hasserted, rfl⟩

private theorem verify_of_le {earlier : Nat} (h : verify backed issuerKey audience now = .ok b) (hle : earlier ≤ now) :
    verify backed issuerKey audience earlier = .ok b := by
  obtain ⟨hcertified, hasserted⟩ := expiry_of_verify h
  exact verify_of_lt h (Nat.lt_of_le_of_lt hle hcertified) (Nat.lt_of_le_of_lt hle hasserted)

/-- A backed assertion that is accepted has the chain from the issuer's key behind it, names the audience and has not
expired; its claims are those read without any check, and they were accepted at every earlier time. -/
theorem accepted_backed (h : verify backed issuerKey audience now = .ok b) :
    (∃ p, Chain backed issuerKey p ∧ p.claims = b) ∧
      b.assertion.audience = audience ∧ now < b.certificate.expiry.toNat ∧ now < b.assertion.expiry.toNat ∧
      decode backed = .ok b ∧ ∀ earlier ≤ now, verify backed issuerKey audience earlier = .ok b := by
  obtain ⟨_, _, _, c, _, _, hcertified, _, _, a, _, _, haudience, hasserted, rfl⟩ := verify_eq_ok_iff.mp h
  exact ⟨exists_chain h, haudience, checkExpiry_eq_ok_iff.mp hcertified, checkExpiry_eq_ok_iff.mp hasserted,
    decode_of_verify h, fun _ hle => verify_of_le h hle⟩

def subject : KeyPair := ⟨⟨List.replicate 32 1, rfl⟩⟩

/-- A certificate of the default pair for the subject, and an assertion that this signed. -/
def vouched : String :=
  String.ofList (SignedToken.issue default (CertificateClaims.json ⟨"i", "p", subject.descriptor, 0, 9⟩) ++
    '~' :: SignedToken.issue subject (AssertionClaims.json ⟨"a", "s", 0, 8⟩))

theorem isOk_vouched : (verify vouched (KeyPair.publicKey default) "a" 7).isOk = true := by
  unfold verify vouched
  rw [split_issued]
  decide +kernel

theorem accepted_backed_vouched : ∃ b, verify vouched (KeyPair.publicKey default) "a" 7 = .ok b ∧
    (∃ p, Chain vouched (KeyPair.publicKey default) p ∧ p.claims = b) ∧ b.assertion.audience = "a" ∧
    decode vouched = .ok b ∧ verify vouched (KeyPair.publicKey default) "a" 0 = .ok b := by
  have hok := isOk_vouched
  generalize hv : verify vouched (KeyPair.publicKey default) "a" 7 = answer at hok
  cases answer with
  | error e => cases hok
  | ok b =>
    obtain ⟨hchain, haudience, -, -, hdecode, hearlier⟩ := accepted_backed hv
    exact ⟨b, rfl, hchain, haudience, hdecode, hearlier 0 (Nat.zero_le 7)⟩

end BackedAssertion

end AccountSync
