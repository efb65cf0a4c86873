import AccountSync.Proofs.Identity.Issuance

/-!
The time in which a backed assertion is accepted. Main statement: `accepted_until_expiry`, that one which is accepted at
all is accepted at exactly the instants before both of its expiries. None is too early: `accepted_before_issue` is
accepted before either of its tokens was issued.
-/

set_option autoImplicit false
set_option relaxedAutoImplicit false

namespace AccountSync

namespace BackedAssertion

variable {backed audience : String} {issuerKey : Key32} {now other : Nat} {b b' : BackedAssertion}

private theorem eq_of_verify (h : verify backed issuerKey audience now = .ok b)
    (h' : verify backed issuerKey audience other = .ok b') : b' = b :=
  Except.ok.inj ((decode_of_verify h').symm.trans (decode_of_verify h))

/-- Whether an instant lies in the time of both tokens, each from its issue to its expiry. -/
def InWindow (b : BackedAssertion) (now : Nat) : Prop :=
  b.certificate.issuedAt.toNat ≤ now ∧ now < b.certificate.expiry.toNat ∧
    b.assertion.issuedAt.toNat ≤ now ∧ now < b.assertion.expiry.toNat

private theorem inWindow_iff_of_verify (h : verify backed issuerKey audience now = .ok b) :
    b.InWindow now ↔ b.certificate.issuedAt.toNat ≤ now ∧ b.assertion.issuedAt.toNat ≤ now := by
  obtain ⟨hcertified, hasserted⟩ := expiry_of_verify h
  constructor
  · rintro ⟨hcertificate, -, hassertion, -⟩
    exact ⟨hcertificate, hassertion⟩
  · rintro ⟨hcertificate, hassertion⟩
    exact ⟨hcertificate, hcertified, hassertion, hasserted⟩

/-- A backed assertion that is accepted is accepted at exactly the instants before both of its expiries. So it is in the
time of both tokens if neither was issued later; but no instant is too early for it, whatever they say of their issue.
-/
theorem accepted_until_expiry (h : verify backed issuerKey audience now = .ok b) :
    (b.InWindow now ↔ b.certificate.issuedAt.toNat ≤ now ∧ b.assertion.issuedAt.toNat ≤ now) ∧
    ∀ other b', verify backed issuerKey audience other = .ok b' ↔
      b' = b ∧ other < b.certificate.expiry.toNat ∧ other < b.assertion.expiry.toNat := by
  refine ⟨inWindow_iff_of_verify h, fun other b' => ⟨?_, ?_⟩⟩
  · intro h'
    obtain rfl := eq_of_verify h h'
    exact ⟨rfl, expiry_of_verify h'⟩
  · rintro ⟨rfl, hcertified, hasserted⟩
    exact verify_of_lt h hcertified hasserted

end BackedAssertion

namespace Issuance

open BackedAssertion (verify)

def postdated : Issuance := ⟨default, BackedAssertion.subject, "i", "p", "a", "s", 100, 100, 100, 50⟩

private theorem isOk_postdated : (verify postdated.text (KeyPair.publicKey default) "a" 7).isOk = true := by
  unfold verify
  rw [text, certificateText, BackedAssertion.split_issued]
  decide +kernel

private theorem verify_postdated : verify postdated.text (KeyPair.publicKey default) "a" 7 = .ok postdated.claims :=
  postdated.verify_of_isOk isOk_postdated

theorem accepted_until_expiry_postdated :
    verify postdated.text (KeyPair.publicKey default) "a" 149 = .ok postdated.claims ∧
    (∀ b, verify postdated.text (KeyPair.publicKey default) "a" 150 ≠ .ok b) ∧ ¬ postdated.claims.InWindow 7 := by
  obtain ⟨hwindow, htimes⟩ := BackedAssertion.accepted_until_expiry verify_postdated
  refine ⟨(htimes 149 _).mpr ⟨rfl, by decide, by decide⟩, ?_, ?_⟩
  · intro b hb
    obtain ⟨-, -, hlate⟩ := (htimes 150 b).mp hb
    exact absurd hlate (by decide)
  · intro hin
    exact absurd (hwindow.mp hin).1 (by decide)

/-- A certificate and an assertion are accepted at an instant that comes before either was issued. -/
theorem accepted_before_issue : ∃ backed issuerKey audience now b, verify backed issuerKey audience now = .ok b ∧
    now < b.certificate.issuedAt.toNat ∧ now < b.assertion.issuedAt.toNat :=
  ⟨postdated.text, KeyPair.publicKey default, "a", 7, postdated.claims, verify_postdated, by decide, by decide⟩

end Issuance

end AccountSync
