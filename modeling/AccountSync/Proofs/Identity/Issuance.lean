import AccountSync.Proofs.Identity.Acceptance
import AccountSync.Proofs.Json.Reading

/-!
What is issued is read back. `Issuance` is all that goes into a certificate and an assertion behind it. Main statement:
`issued_backed`, that both are made, say the claims that were put in, and are accepted exactly for the audience and
until the first of them expires.
-/

set_option autoImplicit false
set_option relaxedAutoImplicit false

namespace AccountSync

namespace SignedToken

variable {α : Type} {r : Json.Reader α} {a : α} {j : Json}

private theorem openSegment_segment (bs : List UInt8) : openSegment (segment bs) = .ok bs :=
  mapError_eq_ok_iff.mpr (Encoding.Base64.decode_encodeChars bs)

private theorem readSegment_documentSegment (hwhole : j.Whole) (hread : r j.tree = some a) :
    readSegment r (documentSegment j) = .ok a := by
  have hbytes : Json.Reader.ofBytes r (Text.Utf8.encode j.compactChars) = some a := by
    rw [Json.ofBytes_compact r hwhole, hread]
  refine bind_eq_ok_iff.mpr ⟨_, openSegment_segment _, ?_⟩
  rw [hbytes]
  rfl

private theorem readSegment_header : readSegment readHeader (documentSegment header) = .ok signatureAlgorithm :=
  readSegment_documentSegment (by simp [header, Json.Whole, Json.WholeMembers]) rfl

theorem openToken_issue (pair : KeyPair) (hwhole : j.Whole) (hread : r j.tree = some a) :
    openToken r (issue pair j) =
      .ok ⟨a, signedPart j, pair.sign (Text.Utf8.encode (signedPart j))⟩ := by
  have hdot : ∀ bs, '.' ∉ segment bs := Encoding.Base64.not_mem_encodeChars (by decide)
  have hparts : Text.splitAll '.' (issue pair j) =
      [documentSegment header, documentSegment j, segment (pair.sign (Text.Utf8.encode (signedPart j)))] := by
    change Text.splitAll '.' ((documentSegment header ++ '.' :: documentSegment j) ++ '.' :: _) = _
    rw [List.append_assoc, List.cons_append, documentSegment, Text.splitAll_append (hdot _), documentSegment,
      Text.splitAll_append (hdot _), Text.splitAll_of_not_mem (hdot _)]
  rw [openToken, hparts]
  dsimp only
  rw [readSegment_header, readSegment_documentSegment hwhole hread, openSegment_segment]
  rfl

end SignedToken

theorem publicKeyOfDescriptor_of_describes {descriptor : Json} {key : Key32} (h : Describes descriptor key) :
    publicKeyOfDescriptor descriptor = .ok key := by
  have hdecode : Encoding.Base64.decode Encoding.Base64.urlSafe
      (Text.Utf8.bytes (Encoding.Base64.encode Encoding.Base64.urlSafe key.bytes)) = .ok key.bytes := by
    rw [Text.Utf8.bytes, Encoding.Base64.encode, String.toList_ofList, Encoding.Base64.decode_encodeChars]
  rw [publicKeyOfDescriptor, h.algorithm, h.publicKey]
  simp only [Option.bind_some, Json.string?, ne_eq, not_true, if_false]
  refine bind_eq_ok_iff.mpr ⟨key.bytes, mapError_eq_ok_iff.mpr hdecode, ?_⟩
  rw [Key32.ofBytes?_bytes]
  rfl

private theorem Json.ofMembers_pair {a b : String} (h : a < b) (j k : Json) :
    Json.ofMembers [(a, j), (b, k)] = .object [(a, j), (b, k)] := by
  have hbehind : ¬ b < a := fun hba => String.lt_irrefl a (String.lt_trans h hba)
  change Json.object (Json.insertMember b k [(a, j)]) = _
  rw [Json.insertMember, if_neg hbehind, if_pos h, Json.insertMember]

namespace KeyPair

theorem describes_descriptor (pair : KeyPair) : Describes pair.descriptor pair.publicKey := by
  constructor <;> simp [descriptor, Json.member?]

private theorem whole_descriptor (pair : KeyPair) : pair.descriptor.Whole := by
  simp [descriptor, Json.Whole, Json.WholeMembers]

private theorem value?_descriptor (pair : KeyPair) :
    Json.Tree.value? (Json.Tree.maxDepth - 1) pair.descriptor.tree = some pair.descriptor := by
  have hbefore : "algorithm" < "publicKey" := by decide
  change some (Json.ofMembers _) = _
  rw [Json.ofMembers_pair hbefore]
  rfl

end KeyPair

private theorem CertificateClaims.whole_json {c : CertificateClaims} (h : c.publicKey.Whole) : c.json.Whole := by
  simp [json, Json.Whole, Json.WholeMembers, Json.nat, h]

private theorem CertificateClaims.read_tree {c : CertificateClaims}
    (h : Json.Tree.value? (Json.Tree.maxDepth - 1) c.publicKey.tree = some c.publicKey) :
    read c.json.tree = some c := by
  have hslots : Json.Reader.slots [["iss"], ["principal"], ["public-key"], ["iat"], ["exp"]] c.json.tree = _ :=
    Json.slots_object rfl (by simp)
  rw [read, hslots]
  simp [Json.Reader.required, Json.string_tree, Json.word64_nat, h]

theorem AssertionClaims.whole_json (a : AssertionClaims) : a.json.Whole := by
  simp [json, Json.Whole, Json.WholeMembers, Json.nat]

theorem AssertionClaims.read_tree (a : AssertionClaims) : read a.json.tree = some a := by
  have hslots : Json.Reader.slots [["aud"], ["iss"], ["iat"], ["exp"]] a.json.tree = _ :=
    Json.slots_object rfl (by simp)
  rw [read, hslots]
  simp [Json.Reader.required, Json.string_tree, Json.word64_nat]

/-- The public key of a pair accepts what the pair signs of a message. -/
def KeyPair.Vouches (pair : KeyPair) (message : List UInt8) : Prop :=
  verifySignature pair.publicKey message (pair.sign message) = .ok ()

namespace BackedAssertion

open SignedToken (Opened openToken issue signedPart)

variable {backed audience : String} {issuerKey : Key32} {now : Nat} {b b' : BackedAssertion}

/-- What is answered to claims whose signatures are right. -/
def judge (b : BackedAssertion) (audience : String) (now : Nat) : Except CryptoError BackedAssertion :=
  if b.certificate.expiry.toNat ≤ now then .error (.expired b.certificate.expiry.toNat now)
  else if b.assertion.audience ≠ audience then .error (.audienceMismatch audience b.assertion.audience)
  else if b.assertion.expiry.toNat ≤ now then .error (.expired b.assertion.expiry.toNat now)
  else .ok b

private theorem judge_eq_ok_iff : b.judge audience now = .ok b' ↔ b = b' ∧
    now < b.certificate.expiry.toNat ∧ b.assertion.audience = audience ∧ now < b.assertion.expiry.toNat := by
  unfold judge
  constructor
  · intro h
    split at h
    · cases h
    · rename_i hcertificate
      split at h
      · cases h
      · rename_i haudience
        split at h
        · cases h
        · rename_i hassertion
          cases h
          exact ⟨rfl, Nat.lt_of_not_le hcertificate, not_not.mp haudience, Nat.lt_of_not_le hassertion⟩
  · rintro ⟨rfl, hcertificate, haudience, hassertion⟩
    rw [if_neg (Nat.not_le.mpr hcertificate), if_neg (not_not.mpr haudience), if_neg (Nat.not_le.mpr hassertion)]

/-- Where both tokens open and both signatures are right, only the two expiries and the audience are left to decide. -/
theorem verify_of_signed {certificate assertion : List Char} {c : Opened CertificateClaims} {a : Opened AssertionClaims}
    {key : Key32} (hsplit : split backed = .ok (certificate, assertion))
    (hc : openToken CertificateClaims.read certificate = .ok c) (hissued : c.verify issuerKey = .ok ())
    (hkey : publicKeyOfDescriptor c.claims.publicKey = .ok key)
    (ha : openToken AssertionClaims.read assertion = .ok a) (hsigned : a.verify key = .ok ()) :
    verify backed issuerKey audience now = judge ⟨c.claims, a.claims⟩ audience now := by
  have hbind : ∀ {α β : Type} (x : α) (f : α → Except CryptoError β), (Except.ok x >>= f) = f x := by
    intro α β x f
    rfl
  unfold verify judge checkExpiry
  simp only [hsplit, hc, hissued, hbind]
  split
  · rfl
  · simp only [hbind, hkey, ha, hsigned]
    split
    · rfl
    · split <;> rfl

end BackedAssertion

structure Issuance where
  issuer : KeyPair
  user : KeyPair
  certificateIssuer : String
  principal : String
  audience : String
  assertionIssuer : String
  certifiedAt : Instant
  lifetime : Nat
  assertedAt : Instant
  duration : Nat

namespace Issuance

open BackedAssertion (judge judge_eq_ok_iff split_issued verify_of_signed)
open SignedToken (Opened openToken openToken_issue issue signedPart)

variable (i : Issuance)

def certificate : CertificateClaims :=
  ⟨i.certificateIssuer, i.principal, i.user.descriptor, i.certifiedAt, after i.certifiedAt i.lifetime⟩

def assertion : AssertionClaims :=
  ⟨i.audience, i.assertionIssuer, i.assertedAt, after i.assertedAt i.duration⟩

def claims : BackedAssertion := ⟨i.certificate, i.assertion⟩

/-- Both public keys accept what is signed under them. -/
structure Correct : Prop where
  certificate : i.issuer.Vouches (Text.Utf8.encode (signedPart i.certificate.json))
  assertion : i.user.Vouches (Text.Utf8.encode (signedPart i.assertion.json))

def certificateText : List Char := issue i.issuer i.certificate.json

def text : String := String.ofList (i.certificateText ++ '~' :: issue i.user i.assertion.json)

private theorem openToken_certificate : openToken CertificateClaims.read i.certificateText =
    .ok ⟨i.certificate, signedPart i.certificate.json,
      i.issuer.sign (Text.Utf8.encode (signedPart i.certificate.json))⟩ :=
  openToken_issue i.issuer (CertificateClaims.whole_json i.user.whole_descriptor)
    (CertificateClaims.read_tree i.user.value?_descriptor)

private theorem openToken_assertion : openToken AssertionClaims.read (issue i.user i.assertion.json) =
    .ok ⟨i.assertion, signedPart i.assertion.json, i.user.sign (Text.Utf8.encode (signedPart i.assertion.json))⟩ :=
  openToken_issue i.user i.assertion.whole_json i.assertion.read_tree

private theorem issueCertificate_eq :
    issueCertificate i.issuer i.certificateIssuer i.principal i.user.descriptor i.certifiedAt
    i.lifetime = .ok (String.ofList i.certificateText) := by
  rw [issueCertificate, publicKeyOfDescriptor_of_describes i.user.describes_descriptor]
  rfl

private theorem generateAssertion_eq :
    generateAssertion i.user (String.ofList i.certificateText) i.audience i.assertionIssuer
    i.assertedAt i.duration = .ok i.text := by
  have hsome : (String.ofList i.certificateText).isEmpty = false := by
    simp [certificateText, issue]
  rw [generateAssertion, hsome, String.toList_ofList]
  rfl

theorem certificateExpiry_eq :
    certificateExpiry (String.ofList i.certificateText) = .ok i.certificate.expiry := by
  rw [certificateExpiry, decodeCertificate, String.toList_ofList, openToken_certificate]
  rfl

private theorem decode_eq : BackedAssertion.decode i.text = .ok i.claims := by
  simp only [BackedAssertion.decode, bind_eq_ok_iff]
  exact ⟨_, split_issued i.issuer i.certificate.json _, _, i.openToken_certificate, _, i.openToken_assertion, rfl⟩

private theorem verify_eq (h : i.Correct) (audience : String) (now : Nat) :
    BackedAssertion.verify i.text i.issuer.publicKey audience now = i.claims.judge audience now :=
  verify_of_signed (split_issued i.issuer i.certificate.json _) i.openToken_certificate h.certificate
    (publicKeyOfDescriptor_of_describes i.user.describes_descriptor) i.openToken_assertion h.assertion

/-- One acceptance shows that both signatures are right. -/
theorem correct_of_verify {audience : String} {now : Nat} {b : BackedAssertion}
    (h : BackedAssertion.verify i.text i.issuer.publicKey audience now = .ok b) : i.Correct := by
  obtain ⟨certificate, assertion, hsplit, c, hc, hissued, -, key, hkey, a, ha, hsigned, -⟩ :=
    BackedAssertion.verify_eq_ok_iff.mp h
  obtain ⟨rfl, rfl⟩ : i.certificateText = certificate ∧ issue i.user i.assertion.json = assertion :=
    Prod.mk.inj (Except.ok.inj ((split_issued i.issuer i.certificate.json _).symm.trans hsplit))
  obtain rfl := Except.ok.inj (i.openToken_certificate.symm.trans hc)
  obtain rfl := Except.ok.inj (i.openToken_assertion.symm.trans ha)
  obtain rfl := Except.ok.inj ((publicKeyOfDescriptor_of_describes i.user.describes_descriptor).symm.trans hkey)
  exact ⟨hissued, hsigned⟩

theorem verify_of_isOk {issuerKey : Key32} {audience : String} {now : Nat}
    (h : (BackedAssertion.verify i.text issuerKey audience now).isOk = true) :
    BackedAssertion.verify i.text issuerKey audience now = .ok i.claims := by
  cases hv : BackedAssertion.verify i.text issuerKey audience now with
  | error e =>
    rw [hv] at h
    cases h
  | ok b => exact (BackedAssertion.decode_of_verify hv).symm.trans i.decode_eq

/-- Where the public keys accept what is signed under them, a certificate and an assertion are made of all that can be
put in. They say that, each until the end of its time or of all time, and are accepted for the audience alone and
until the first of them expires. -/
theorem issued_backed (h : i.Correct) : ∃ certificate backed,
    issueCertificate i.issuer i.certificateIssuer i.principal i.user.descriptor i.certifiedAt i.lifetime =
      .ok certificate ∧
    generateAssertion i.user certificate i.audience i.assertionIssuer i.assertedAt i.duration = .ok backed ∧
    certificateExpiry certificate = .ok i.certificate.expiry ∧ BackedAssertion.decode backed = .ok i.claims ∧
    i.certificate.expiry.toNat = min (i.certifiedAt.toNat + i.lifetime) maxMillis ∧
    i.assertion.expiry.toNat = min (i.assertedAt.toNat + i.duration) maxMillis ∧
    ∀ audience now,
      BackedAssertion.verify backed i.issuer.publicKey audience now = i.claims.judge audience now ∧
      (BackedAssertion.verify backed i.issuer.publicKey audience now = .ok i.claims ↔
        now < i.certificate.expiry.toNat ∧ i.audience = audience ∧ now < i.assertion.expiry.toNat) := by
  refine ⟨String.ofList i.certificateText, i.text, i.issueCertificate_eq, i.generateAssertion_eq,
    i.certificateExpiry_eq, i.decode_eq, toNat_after _ _, toNat_after _ _, ?_⟩
  intro audience now
  rw [i.verify_eq h, judge_eq_ok_iff]
  simp [claims, assertion]

def vouched : Issuance := ⟨default, BackedAssertion.subject, "i", "p", "a", "s", 0, 9, 0, 8⟩

private theorem correct_vouched : vouched.Correct := by
  have htext : vouched.text = BackedAssertion.vouched := by
    have hcertificate : after 0 9 = 9 := by decide
    have hassertion : after 0 8 = 8 := by decide
    simp only [text, certificateText, certificate, assertion, vouched, BackedAssertion.vouched, hcertificate,
      hassertion]
  have hok := BackedAssertion.isOk_vouched
  rw [← htext] at hok
  exact correct_of_verify vouched (vouched.verify_of_isOk hok)

theorem issued_backed_vouched : vouched.Correct ∧ ∃ certificate backed,
    issueCertificate default "i" "p" BackedAssertion.subject.descriptor 0 9 = .ok certificate ∧
    generateAssertion BackedAssertion.subject certificate "a" "s" 0 8 = .ok backed ∧
    certificateExpiry certificate = .ok 9 ∧ BackedAssertion.decode backed = .ok vouched.claims ∧
    BackedAssertion.verify backed (KeyPair.publicKey default) "a" 7 = .ok vouched.claims ∧
    BackedAssertion.verify backed (KeyPair.publicKey default) "b" 7 = .error (.audienceMismatch "b" "a") ∧
    BackedAssertion.verify backed (KeyPair.publicKey default) "b" 9 = .error (.expired 9 9) := by
  refine ⟨correct_vouched, ?_⟩
  obtain ⟨certificate, backed, hcertificate, hbacked, hexpiry, hdecode, -, -, hverify⟩ :=
    issued_backed vouched correct_vouched
  refine ⟨certificate, backed, hcertificate, hbacked, hexpiry, hdecode, ?_, ?_, ?_⟩
  · exact (hverify "a" 7).1
  · exact (hverify "b" 7).1
  · exact (hverify "b" 9).1

end Issuance

end AccountSync
