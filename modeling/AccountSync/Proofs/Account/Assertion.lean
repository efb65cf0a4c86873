import AccountSync.Account.State
import AccountSync.Proofs.Identity.Issuance

/-!
Assertions that a married account makes. Its certificate is text that was sent to it; that an expiry can be read off it
is all that is known. Main statement: `generated_backed`, that then an assertion is always made, and is read back behind
the same certificate: a text that opens as a token holds no tilde (`not_mem_of_openToken`), so the first one stands
behind the certificate.
-/

set_option autoImplicit false
set_option relaxedAutoImplicit false

namespace AccountSync

namespace SignedToken

variable {α : Type} {r : Json.Reader α} {token : List Char} {t : Opened α}

theorem not_mem_of_openToken {c : Char} (h : openToken r token = .ok t) (hdot : c ≠ '.')
    (hsymbol : ∀ n < 64, c ≠ Encoding.Base64.urlSafe.symbol n) : c ∉ token := by
  have hsegment : ∀ bs, c ∉ segment bs := Encoding.Base64.not_mem_encodeChars hsymbol
  obtain ⟨header, payload, hparts, -, -⟩ := (opens_of_openToken h).parts
  have htoken := Text.intercalate_splitAll '.' token
  rw [hparts] at htoken
  rw [← htoken]
  simp [List.intercalate, hsegment, hdot]

theorem ne_nil_of_openToken (h : openToken r token = .ok t) : token ≠ [] := by
  rw [(opens_of_openToken h).signed]
  simp

end SignedToken

namespace BackedAssertion

open SignedToken (Opened issue openToken openToken_issue)

variable {certificate : String} {c : CertificateClaims}

private theorem tilde_not_mem_certificate (h : decodeCertificate certificate = .ok c) : '~' ∉ certificate.toList := by
  obtain ⟨t, ht, -⟩ := exists_ok_of_bind h
  exact SignedToken.not_mem_of_openToken ht (by decide) (by decide)

private theorem decode_append {rest : List Char} {a : Opened AssertionClaims}
    (h : decodeCertificate certificate = .ok c) (ha : openToken AssertionClaims.read rest = .ok a) :
    decode (String.ofList (certificate.toList ++ '~' :: rest)) = .ok ⟨c, a.claims⟩ := by
  have hsplit : split (String.ofList (certificate.toList ++ '~' :: rest)) = .ok (certificate.toList, rest) :=
    split_eq_ok_iff.mpr ⟨String.toList_ofList, tilde_not_mem_certificate h⟩
  obtain ⟨t, ht, hc⟩ := exists_ok_of_bind h
  cases hc
  simp only [decode, bind_eq_ok_iff]
  exact ⟨_, hsplit, t, ht, a, ha, rfl⟩

private theorem generateAssertion_append (h : decodeCertificate certificate = .ok c) (pair : KeyPair)
    (audience issuer : String) (issuedAt : Instant) (duration : Nat) :
    generateAssertion pair certificate audience issuer issuedAt duration =
      .ok (String.ofList (certificate.toList ++ '~' ::
        issue pair (AssertionClaims.json ⟨audience, issuer, issuedAt, after issuedAt duration⟩))) := by
  obtain ⟨t, ht, -⟩ := exists_ok_of_bind h
  have hne : certificate ≠ "" := by
    rintro rfl
    exact SignedToken.ne_nil_of_openToken ht rfl
  have hsome : certificate.isEmpty = false := by simpa using hne
  rw [generateAssertion, hsome, if_neg Bool.false_ne_true]

end BackedAssertion

namespace Married

open BackedAssertion (decode_append generateAssertion_append tilde_not_mem_certificate)
open SignedToken (openToken_issue)

variable {m : Married} {now : Instant}

private theorem exists_certificate (h : m.hasValidCertificate now = true) : ∃ c,
    decodeCertificate m.certificate = .ok c ∧ m.certificateExpiry = .ok c.expiry ∧ now < c.expiry := by
  unfold hasValidCertificate at h
  split at h
  · rename_i expiry hexpiry
    obtain ⟨c, hc, hlast⟩ := exists_ok_of_bind (mapError_eq_ok_iff.mp hexpiry)
    cases hlast
    exact ⟨c, hc, hexpiry, of_decide_eq_true h⟩
  · cases h

/-- Behind a certificate that is valid an assertion is made for every audience, from every instant and for every time.
It is read back as such, until the end of its time or of all time, behind the certificate with the expiry that is still
to come; no tilde stands before the one between them. -/
theorem generated_backed (h : m.hasValidCertificate now = true) (audience : String) (issuedAt : Instant)
    (duration : Nat) : ∃ backed rest certificate assertion,
      m.generateAssertion audience issuedAt duration = .ok backed ∧
      BackedAssertion.decode backed = .ok ⟨certificate, assertion⟩ ∧
      decodeCertificate m.certificate = .ok certificate ∧
      m.certificateExpiry = .ok certificate.expiry ∧ now < certificate.expiry ∧
      assertion.audience = audience ∧ assertion.issuer = defaultAssertionIssuer ∧ assertion.issuedAt = issuedAt ∧
      assertion.expiry.toNat = min (issuedAt.toNat + duration) maxMillis ∧
      backed.toList = m.certificate.toList ++ '~' :: rest ∧ '~' ∉ m.certificate.toList := by
  obtain ⟨c, hc, hexpiry, hlater⟩ := exists_certificate h
  have hissue := openToken_issue m.account.keyPair
    (AssertionClaims.whole_json ⟨audience, defaultAssertionIssuer, issuedAt, after issuedAt duration⟩)
    (AssertionClaims.read_tree _)
  refine ⟨_, _, c, _, ?_, decode_append hc hissue, hc, hexpiry, hlater, rfl, rfl, rfl, toNat_after issuedAt duration,
    String.toList_ofList, tilde_not_mem_certificate hc⟩
  rw [generateAssertion, generateAssertion_append hc]
  rfl

/-- An account with a certificate that was issued to it. -/
def certified : Married :=
  ⟨⟨"e", "u", "s", .zero, .zero, BackedAssertion.subject⟩, String.ofList Issuance.vouched.certificateText⟩

theorem generated_backed_certified : certified.hasValidCertificate 8 = true ∧
    ∃ backed rest certificate assertion, certified.generateAssertion "a" 5 maxMillis = .ok backed ∧
      BackedAssertion.decode backed = .ok ⟨certificate, assertion⟩ ∧ certificate.expiry = 9 ∧
      assertion.expiry.toNat = maxMillis ∧ backed.toList = certified.certificate.toList ++ '~' :: rest := by
  have hexpiry : certified.certificateExpiry = .ok 9 := by
    rw [certificateExpiry, certified, Issuance.certificateExpiry_eq]
    decide
  have hvalid : certified.hasValidCertificate 8 = true := by
    rw [hasValidCertificate, hexpiry]
    rfl
  obtain ⟨backed, rest, c, a, hbacked, hdecode, -, hc, -, -, -, -, ha, hcut, -⟩ :=
    generated_backed hvalid "a" 5 maxMillis
  refine ⟨hvalid, backed, rest, c, a, hbacked, hdecode, ?_, ?_, hcut⟩
  · exact (Except.ok.inj (hexpiry.symm.trans hc)).symm
  · rw [ha]
    decide

end Married

end AccountSync
