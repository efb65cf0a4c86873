import AccountSync.Proofs.Account.Assertion
import AccountSync.Proofs.Encoding.Hex
import AccountSync.Proofs.Login.Walk

/-!
Login runs that get to the married state. `Helping` says what the provider has to answer where it is asked, and
`needed` what it has to be asked from each state. Main statement: `married_of_walk`, that two steps are enough then, and
that nothing else is asked.
-/

set_option autoImplicit false
set_option relaxedAutoImplicit false

namespace AccountSync

def ValidAt (certificate : String) (now : Instant) : Prop :=
  ∃ expiry, certificateExpiry certificate = .ok expiry ∧ now < expiry

theorem hasValidCertificate_iff {m : Married} {now : Instant} :
    m.hasValidCertificate now = true ↔ ValidAt m.certificate now := by
  unfold Married.hasValidCertificate Married.certificateExpiry ValidAt
  cases certificateExpiry m.certificate with
  | error e => exact iff_of_false Bool.false_ne_true nofun
  | ok expiry => simp [Except.mapError]

theorem ValidAt.earlier {certificate : String} {now before : Instant} (h : ValidAt certificate now)
    (hbefore : before ≤ now) : ValidAt certificate before := by
  obtain ⟨expiry, hexpiry, hlater⟩ := h
  exact ⟨expiry, hexpiry, UInt64.lt_of_le_of_lt hbefore hlater⟩

private theorem ValidAt.isEmpty_eq_false {certificate : String} {now : Instant} (h : ValidAt certificate now) :
    certificate.isEmpty = false := by
  obtain ⟨expiry, hexpiry, -⟩ := h
  obtain ⟨c, hc, -⟩ := exists_ok_of_bind hexpiry
  obtain ⟨t, ht, -⟩ := exists_ok_of_bind hc
  have hne : certificate ≠ "" := by
    rintro rfl
    exact SignedToken.ne_nil_of_openToken ht rfl
  simpa using hne

namespace Login

open Dialogue

def Question.request? : Question → Option Provider.Request
  | .ask r => some r
  | _ => none

/-- Until some time, which no clock goes past, the provider is of help: where it is asked, it finds the account
verified, tells two keys and signs a certificate that is still good at that time; and a key pair can be drawn. -/
structure Helping (last : Instant) (xs : Exchanges) : Prop where
  ends : ∀ now, ⟨.now, now⟩ ∈ xs → now ≤ last
  confirms : ∀ token a, ⟨.ask (.emailStatus token), a⟩ ∈ xs → ∃ status, a = .ok status ∧ status.verified = true
  tells : ∀ token a, ⟨.ask (.fetchKeys token), a⟩ ∈ xs →
    ∃ keys, a = .ok keys ∧ Key32.Written keys.kA ∧ Key32.Written keys.wrapKB
  draws : ∀ a, ⟨.keyPair, a⟩ ∈ xs → ∃ pair, a = .ok pair
  signs : ∀ token key duration a, ⟨.ask (.signCertificate token key duration), a⟩ ∈ xs →
    ∃ certificate, a = .ok certificate ∧ ValidAt certificate last

def signing (duration : Nat) (sessionToken : String) (pair : KeyPair) : Provider.Request :=
  .signCertificate sessionToken pair.descriptor (clampMillis duration)

/-- What the provider has to be asked for an account to be married, given the key pair that it draws if it has none. -/
def needed (duration : Nat) (now : Instant) (pair : KeyPair) : Account → List Provider.Request
  | .engaged s =>
    (if s.verified then [] else [.emailStatus s.sessionToken]) ++
      [.fetchKeys s.keyFetchToken, signing duration s.sessionToken pair]
  | .cohabiting k => [signing duration k.sessionToken k.keyPair]
  | .married held =>
    if held.hasValidCertificate now then [] else [signing duration held.account.sessionToken held.account.keyPair]
  | .separated _ => []
  | .doghouse _ => []

variable {duration bound : Nat} {initial next : Account} {action : Action} {s : Engaged} {k : Cohabiting} {m : Married}
  {xs ys : Exchanges} {t : Transition} {run : Run} {now last : Instant}

theorem Helping.mono (h : Helping last ys) (hsub : xs ⊆ ys) : Helping last xs where
  ends := fun now hx => h.ends now (hsub hx)
  confirms := fun token a hx => h.confirms token a (hsub hx)
  tells := fun token a hx => h.tells token a (hsub hx)
  draws := fun a hx => h.draws a (hsub hx)
  signs := fun token key duration a hx => h.signs token key duration a (hsub hx)

theorem isSettled_married (m : Married) (now : Instant) :
    isSettled (.married m) .married now = m.hasValidCertificate now :=
  Bool.true_and _

theorem withKeys_of_written {keys : Provider.KeysResponse} (hkA : Key32.Written keys.kA)
    (hwrapKB : Key32.Written keys.wrapKB) : ∃ account, withKeys s keys = .ok account := by
  obtain ⟨kA, hkA⟩ := hkA.exists_key
  obtain ⟨wrapKB, hwrapKB⟩ := hwrapKB.exists_key
  rw [withKeys, hkA, hwrapKB]
  exact ⟨_, rfl⟩

private theorem fetched_of_fetching {r : Except SyncError Outcome} (h : Fetching s xs r) (hhelp : Helping last xs) :
    (∃ k, r = .ok (.advanced (.cohabiting k))) ∧ asked Question.request? xs = [.fetchKeys s.keyFetchToken] := by
  cases h with
  | refused e =>
    obtain ⟨keys, hkeys, -⟩ := hhelp.tells _ _ List.mem_cons_self
    cases hkeys
  | malformed keys e hmalformed =>
    obtain ⟨_, hkeys, hkA, hwrapKB⟩ := hhelp.tells _ _ List.mem_cons_self
    cases hkeys
    obtain ⟨account, haccount⟩ := withKeys_of_written (s := s) hkA hwrapKB
    cases haccount.symm.trans hmalformed
  | pairless keys account e _ =>
    obtain ⟨pair, hpair⟩ := hhelp.draws _ (List.mem_cons_of_mem _ List.mem_cons_self)
    cases hpair
  | fetched keys account pair _ => exact ⟨⟨_, rfl⟩, rfl⟩

private theorem fetched_of_step (h : Course (step duration .fetchKeys (.engaged s)) xs (t, next))
    (hhelp : Helping last xs) : t.kind = .progress ∧ (∃ k, next = .cohabiting k ∧ k.sessionToken = s.sessionToken) ∧
      asked Question.request? xs =
        (if s.verified then [] else [.emailStatus s.sessionToken]) ++ [.fetchKeys s.keyFetchToken] := by
  have hmoves : Moves (.engaged s) t next := moves_of_course .fetchKeys h
  generalize hr : (t, next) = r at h
  have hadvanced : ∀ {a : Except SyncError Outcome}, (∃ k, a = .ok (.advanced (.cohabiting k))) →
      (t, next) = conclude .fetchKeys (.engaged s) a →
      t.kind = .progress ∧ ∃ k, next = .cohabiting k ∧ k.sessionToken = s.sessionToken := by
    rintro a ⟨k, rfl⟩ he
    cases he
    cases hmoves with
    | fetched _ _ htoken => exact ⟨rfl, k, rfl, htoken⟩
  cases course_step_iff.mp h with
  | astray hown => exact (hown .fetchKeys).elim
  | fetch hchecking =>
    cases hchecking with
    | verified hverified hfetching =>
      obtain ⟨hcohabiting, hrequests⟩ := fetched_of_fetching hfetching hhelp
      obtain ⟨hkind, hnext⟩ := hadvanced hcohabiting hr
      refine ⟨hkind, hnext, ?_⟩
      rw [hverified]
      exact hrequests
    | refused e _ =>
      obtain ⟨status, hstatus, -⟩ := hhelp.confirms _ _ List.mem_cons_self
      cases hstatus
    | unverified status _ hunverified =>
      obtain ⟨_, hstatus, hverified⟩ := hhelp.confirms _ _ List.mem_cons_self
      cases hstatus
      cases hunverified.symm.trans hverified
    | confirmed status hunverified _ hfetching =>
      obtain ⟨hcohabiting, hrequests⟩ := fetched_of_fetching hfetching (hhelp.mono (List.subset_cons_self _ _))
      obtain ⟨hkind, hnext⟩ := hadvanced hcohabiting hr
      refine ⟨hkind, hnext, ?_⟩
      rw [hunverified, ← List.singleton_append, asked_append, hrequests]
      rfl

private theorem signed_of_step (h : Course (step duration .signCertificate (.cohabiting k)) xs (t, next))
    (hhelp : Helping last xs) : ∃ certificate, t.kind = .progress ∧ next = .married ⟨k, certificate⟩ ∧
      asked Question.request? xs = [signing duration k.sessionToken k.keyPair] ∧ ValidAt certificate last := by
  generalize hr : (t, next) = r at h
  cases course_step_iff.mp h with
  | astray hown => exact (hown .signCertificate).elim
  | sign hsigning =>
    cases hsigning with
    | refused e =>
      obtain ⟨certificate, hcertificate, -⟩ := hhelp.signs _ _ _ _ List.mem_cons_self
      cases hcertificate
    | empty certificate hempty =>
      obtain ⟨_, hcertificate, hvalid⟩ := hhelp.signs _ _ _ _ List.mem_cons_self
      cases hcertificate
      cases hempty.symm.trans hvalid.isEmpty_eq_false
    | signed certificate _ =>
      obtain ⟨_, hcertificate, hvalid⟩ := hhelp.signs _ _ _ _ List.mem_cons_self
      cases hcertificate
      cases hr
      exact ⟨certificate, rfl, rfl, rfl, hvalid⟩

/-- With a certificate that is good nothing is left to do. -/
theorem Walk.of_valid (h : Walk duration .married bound (.married m) xs run) (hnow : xs.head? = some ⟨.now, now⟩)
    (hvalid : ValidAt m.certificate now) : run.state = .married m ∧ asked Question.request? xs = [] := by
  have hsettled : isSettled (.married m) .married now ≠ false := by
    rw [isSettled_married, hasValidCertificate_iff.mpr hvalid]
    exact nofun
  cases h with
  | settled _ => exact ⟨rfl, rfl⟩
  | ended h _ =>
    cases hnow
    exact (hsettled h).elim
  | exhausted h _ =>
    cases hnow
    exact (hsettled h).elim
  | stayed h _ _ _ =>
    cases hnow
    exact (hsettled h).elim
  | moved h _ _ _ _ =>
    cases hnow
    exact (hsettled h).elim

private theorem requests_of_moved (now : Instant) (t : Transition) (next : Account) (xs ys : Exchanges) :
    asked Question.request? (⟨.now, now⟩ :: (xs ++ ⟨.report t next, ()⟩ :: ys)) =
      asked Question.request? xs ++ asked Question.request? ys := by
  have hnow : asked Question.request? (⟨.now, now⟩ :: (xs ++ ⟨.report t next, ()⟩ :: ys)) =
      asked Question.request? (xs ++ ⟨.report t next, ()⟩ :: ys) := rfl
  rw [hnow, asked_append]
  rfl

theorem Walk.exists_now {target : StateLabel} (h : Walk duration target bound initial xs run) :
    ∃ now, xs.head? = some ⟨.now, now⟩ := by
  cases h <;> exact ⟨_, rfl⟩

/-- Where a step is to be taken that cannot but move the account, the walk goes on behind it. -/
theorem Walk.of_step (h : Walk duration .married (bound + 1) initial xs run) (hnow : xs.head? = some ⟨.now, now⟩)
    (hsettled : isSettled initial .married now = false) (haction : nextAction initial now = some action)
    (hmoves : ∀ {ys t next}, ys ⊆ xs → Course (step duration action initial) ys (t, next) → t.kind ≠ .stay) :
    ∃ ys t next zs run', xs = ⟨.now, now⟩ :: (ys ++ ⟨.report t next, ()⟩ :: zs) ∧
      Course (step duration action initial) ys (t, next) ∧ Walk duration .married bound next zs run' ∧
      run.state = run'.state := by
  cases h with
  | settled h =>
    cases hnow
    cases hsettled.symm.trans h
  | ended _ h =>
    cases hnow
    cases haction.symm.trans h
  | @stayed _ _ next _ _ ys t _ h hstep hkind =>
    cases hnow
    cases haction.symm.trans h
    have hsub : ys ⊆ ys ++ [⟨.report t next, ()⟩] := List.subset_append_left _ _
    exact (hmoves (List.Subset.trans hsub (List.subset_cons_self _ _)) hstep hkind).elim
  | @moved _ _ next _ _ ys zs t run' _ h hstep _ hwalk =>
    cases hnow
    cases haction.symm.trans h
    exact ⟨ys, t, next, zs, run', rfl, hstep, hwalk, rfl⟩

private theorem mem_behind {t : Transition} {x y : Exchange Question.Answer} (h : y ∈ ys) :
    y ∈ x :: (xs ++ ⟨.report t next, ()⟩ :: ys) :=
  List.mem_cons_of_mem _ (List.mem_append_right _ (List.mem_cons_of_mem _ h))

private theorem mem_before {t : Transition} {x y : Exchange Question.Answer} (h : y ∈ xs) :
    y ∈ x :: (xs ++ ⟨.report t next, ()⟩ :: ys) :=
  List.mem_cons_of_mem _ (List.mem_append_left _ h)

private theorem married_of_cohabiting (h : Walk duration .married (bound + 1) (.cohabiting k) xs run)
    (hhelp : Helping last xs) : ∃ certificate, run.state = .married ⟨k, certificate⟩ ∧ ValidAt certificate last ∧
      asked Question.request? xs = [signing duration k.sessionToken k.keyPair] := by
  obtain ⟨now, hnow⟩ := h.exists_now
  obtain ⟨ys, t, next, zs, run', rfl, hstep, hwalk, hstate⟩ := h.of_step hnow rfl rfl fun hsub hstep hstay => by
    obtain ⟨_, hprogress, -⟩ := signed_of_step hstep (hhelp.mono hsub)
    cases hprogress.symm.trans hstay
  obtain ⟨certificate, _, rfl, hrequests, hvalid⟩ := signed_of_step hstep (hhelp.mono fun _ => mem_before)
  obtain ⟨later, hlater⟩ := hwalk.exists_now
  have hle : later ≤ last := hhelp.ends later (mem_behind (List.mem_of_mem_head? hlater))
  obtain ⟨hmarried, hquiet⟩ := hwalk.of_valid hlater (hvalid.earlier hle)
  refine ⟨certificate, hstate.trans hmarried, hvalid, ?_⟩
  rw [requests_of_moved, hrequests, hquiet]
  rfl

private theorem dropped_of_step {held : Married} (h : Course (step duration action (.married held)) xs (t, next))
    (haction : nextAction (.married held) now = some action) :
    t.kind = .reset ∧ next = .cohabiting held.account ∧ asked Question.request? xs = [] := by
  generalize hr : (t, next) = r at h
  have hown := own_of_nextAction haction
  cases course_step_iff.mp h with
  | astray hastray => exact (hastray hown).elim
  | check m =>
    cases hr
    exact ⟨rfl, rfl, rfl⟩

/-- Two steps are enough for an account that was not dropped to be married, if the provider helps. It is then married
with the certificate that it had at the start if that is good at the time that is read first, and with a new one
otherwise; and the provider is asked what that needs, in order and once. -/
theorem married_of_walk (h : Walk duration .married (bound + 2) initial xs run) (hdropped : ¬ Dropped initial)
    (hhelp : Helping last xs) : ∃ now m, xs.head? = some ⟨.now, now⟩ ∧ run.state = .married m ∧
      asked Question.request? xs = needed duration now m.account.keyPair initial ∧
      (initial = .married m ∧ ValidAt m.certificate now ∨ ValidAt m.certificate last) := by
  obtain ⟨now, hnow⟩ := h.exists_now
  cases initial with
  | separated o => exact (hdropped (.inl rfl)).elim
  | doghouse o => exact (hdropped (.inr rfl)).elim
  | cohabiting k =>
    obtain ⟨certificate, hstate, hvalid, hrequests⟩ := married_of_cohabiting h hhelp
    exact ⟨now, _, hnow, hstate, hrequests, .inr hvalid⟩
  | engaged s =>
    obtain ⟨ys, t, next, zs, run', rfl, hstep, hwalk, hstate⟩ := h.of_step hnow rfl rfl fun hsub hstep hstay => by
      obtain ⟨hprogress, -⟩ := fetched_of_step hstep (hhelp.mono hsub)
      cases hprogress.symm.trans hstay
    obtain ⟨_, ⟨k, rfl, htoken⟩, hfetched⟩ := fetched_of_step hstep (hhelp.mono fun _ => mem_before)
    obtain ⟨certificate, hmarried, hvalid, hsigned⟩ := married_of_cohabiting hwalk (hhelp.mono fun _ => mem_behind)
    refine ⟨now, _, hnow, hstate.trans hmarried, ?_, .inr hvalid⟩
    rw [requests_of_moved, hfetched, hsigned, List.append_assoc, htoken]
    rfl
  | married held =>
    cases hheld : held.hasValidCertificate now with
    | true =>
      have hvalid := hasValidCertificate_iff.mp hheld
      obtain ⟨hstate, hrequests⟩ := h.of_valid hnow hvalid
      refine ⟨now, held, hnow, hstate, ?_, .inl ⟨rfl, hvalid⟩⟩
      rw [hrequests, needed, hheld, if_pos rfl]
    | false =>
      have haction : nextAction (.married held) now = some .checkCertificate := by
        rw [nextAction, hheld, if_neg Bool.false_ne_true]
      obtain ⟨ys, t, next, zs, run', rfl, hstep, hwalk, hstate⟩ :=
        h.of_step hnow ((isSettled_married held now).trans hheld) haction fun _ hstep hstay => by
          obtain ⟨hreset, -⟩ := dropped_of_step hstep haction
          cases hreset.symm.trans hstay
      obtain ⟨_, rfl, hquiet⟩ := dropped_of_step hstep haction
      obtain ⟨certificate, hmarried, hvalid, hsigned⟩ := married_of_cohabiting hwalk (hhelp.mono fun _ => mem_behind)
      refine ⟨now, _, hnow, hstate.trans hmarried, ?_, .inr hvalid⟩
      rw [requests_of_moved, hquiet, hsigned, needed, hheld, if_neg Bool.false_ne_true]
      rfl

end Login

end AccountSync
