import AccountSync.Proofs.Attempt.Handoff
import AccountSync.Proofs.Dialogue.Upto

/-!
What the verifier is asked, and that it makes no difference. Main statement: `verifier_never_decides`, that attempts
which differ only in what the verifier answers, and in whether every assertion is to be looked at, come to the same;
and which assertions the verifier is asked about.
-/

set_option autoImplicit false
set_option relaxedAutoImplicit false

namespace AccountSync

/-- A client that has every assertion looked at, or only those that fail for no reason that is known. -/
def Client.debugging (c : Client) (always : Bool) : Client :=
  { c with config := { c.config with debugAssertions := always } }

namespace Attempt

open Dialogue

def Question.Diagnoses (q : Question) : Prop := q.part = .verifier

instance : DecidablePred Question.Diagnoses := fun q => inferInstanceAs (Decidable (q.part = .verifier))

/-- An assertion that was offered to the token server, and what came of it. -/
structure Offer where
  assertion : String
  answer : Except SyncError TokenServer.Response

/-- There was a response that has no token and asks for no delay. -/
def Offer.unexplained (o : Offer) : Bool :=
  match o.answer with
  | .error _ => false
  | .ok response => !response.result.isOk && response.backoff.total.getD 0 = 0

private theorem unexplained_response (assertion : String) (response : TokenServer.Response) :
    Offer.unexplained ⟨assertion, .ok response⟩ =
      (!response.result.isOk && decide (response.backoff.total.getD 0 = 0)) := rfl

def Offer.examined (always : Bool) (o : Offer) : Bool := always || o.unexplained

def offer? : Exchange Question.Answer → Option Offer
  | ⟨.party (.exchange assertion _), answer⟩ => some ⟨assertion, answer⟩
  | _ => none

def offers (xs : Exchanges) : List Offer := xs.filterMap offer?

def diagnosed? : Exchange Question.Answer → Option String
  | ⟨.party (.verify _ assertion), _⟩ => some assertion
  | _ => none

def diagnosed (xs : Exchanges) : List String := xs.filterMap diagnosed?

structure Apart (xs : Exchanges) : Prop where
  unoffered : offers xs = []
  undiagnosed : diagnosed xs = []

/-- One assertion is offered at most, and the verifier is asked about just that if it is to look at it. -/
structure Examines (always : Bool) (xs : Exchanges) : Prop where
  once : (offers xs).length ≤ 1
  diagnosed : diagnosed xs = ((offers xs).filter (Offer.examined always)).map Offer.assertion

section Exchanges

variable {xs ys : Exchanges} {parts : List Part} {always : Bool}

private theorem offers_append : offers (xs ++ ys) = offers xs ++ offers ys := List.filterMap_append

private theorem diagnosed_append : diagnosed (xs ++ ys) = diagnosed xs ++ diagnosed ys := List.filterMap_append

private theorem part_of_offer? {x : Exchange Question.Answer} {o : Offer} (h : offer? x = some o) :
    x.question.part = .token := by
  unfold offer? at h
  split at h
  · rfl
  · cases h

private theorem part_of_diagnosed? {x : Exchange Question.Answer} {assertion : String}
    (h : diagnosed? x = some assertion) : x.question.part = .verifier := by
  unfold diagnosed? at h
  split at h
  · rfl
  · cases h

private theorem offers_of_within (h : ∀ x ∈ xs, Within parts x.question) (hp : .token ∉ parts) : offers xs = [] :=
  untold_of_within part_of_offer? h hp

private theorem diagnosed_of_within (h : ∀ x ∈ xs, Within parts x.question) (hp : .verifier ∉ parts) :
    diagnosed xs = [] :=
  untold_of_within part_of_diagnosed? h hp

private theorem apart_of_within (h : ∀ x ∈ xs, Within parts x.question) (ht : .token ∉ parts) (hv : .verifier ∉ parts) :
    Apart xs :=
  ⟨offers_of_within h ht, diagnosed_of_within h hv⟩

private theorem Apart.append (hx : Apart xs) (hy : Apart ys) : Apart (xs ++ ys) := by
  refine ⟨?_, ?_⟩
  · rw [offers_append, hx.unoffered, hy.unoffered]
    rfl
  · rw [diagnosed_append, hx.undiagnosed, hy.undiagnosed]
    rfl

private theorem Apart.examines (h : Apart xs) : Examines always xs := by
  refine ⟨?_, ?_⟩
  · rw [h.unoffered]
    exact Nat.zero_le 1
  · rw [h.unoffered, h.undiagnosed]
    rfl

private theorem Examines.prepend (h : Examines always ys) (hx : Apart xs) : Examines always (xs ++ ys) := by
  refine ⟨?_, ?_⟩
  · rw [offers_append, hx.unoffered]
    exact h.once
  · rw [diagnosed_append, offers_append, hx.undiagnosed, hx.unoffered]
    exact h.diagnosed

private theorem Examines.append (h : Examines always xs) (hy : Apart ys) : Examines always (xs ++ ys) := by
  refine ⟨?_, ?_⟩
  · rw [offers_append, hy.unoffered, List.append_nil]
    exact h.once
  · rw [diagnosed_append, offers_append, hy.undiagnosed, hy.unoffered, List.append_nil, List.append_nil]
    exact h.diagnosed

end Exchanges

section Runs

variable {σ : Type} {move : σ → Exchange Question.Answer → σ → Prop} {c : Client} {initial : Account} {m : Married}
  {assertion : String} {response : TokenServer.Response} {forced : Bool} {extras : SyncExtras} {s s' : σ}
  {ms : Moments σ} {r : SyncOutcome}

private theorem diagnosed_of_diagnoseIf {wanted : Prop} [Decidable wanted]
    (h : Runs move s (diagnoseIf wanted c assertion) ms () s') :
    diagnosed (exchangesOf ms) = if wanted then [assertion] else [] := by
  unfold diagnoseIf at h
  split at h
  · rename_i hwanted
    obtain ⟨xs, a, t, ys, hask, hpure, rfl⟩ := runs_bind_iff.mp h
    obtain ⟨rfl, _⟩ := runs_question_iff.mp hask
    obtain ⟨rfl, _, _⟩ := runs_pure_iff.mp hpure
    rw [if_pos hwanted]
    rfl
  · rename_i hwanted
    obtain ⟨rfl, _, _⟩ := runs_pure_iff.mp h
    rw [if_neg hwanted]
    rfl

private theorem isNone_delay? (b : Http.BackoffSignal) : b.delay?.isNone = decide (b.total.getD 0 = 0) := by
  unfold Http.BackoffSignal.delay?
  cases b.total with
  | none => rfl
  | some n =>
    by_cases hn : n = 0 <;> simp [Option.filter, hn]

private theorem diagnosed_of_settle {a : Except TokenFailure TokenServer.Token}
    (h : Runs move s (settle c assertion response) ms a s') :
    diagnosed (exchangesOf ms) =
      if Offer.unexplained ⟨assertion, .ok response⟩ ∧ ¬ c.config.debugAssertions then [assertion] else [] := by
  rw [settle_eq] at h
  obtain ⟨xs, _, t, rest, hclock, hrest, rfl⟩ := runs_bind_iff.mp h
  obtain ⟨ys, _, u, zs, hbackoff, hverdict, rfl⟩ := runs_bind_iff.mp hrest
  have hnoted := diagnosed_of_within (within_of_runs hclock (asks_noteClock c _)) (by decide)
  have hkept := diagnosed_of_within (within_of_runs hbackoff (asks_noteBackoff _)) (by decide)
  rw [exchangesOf_append, exchangesOf_append, diagnosed_append, diagnosed_append, hnoted, hkept, List.nil_append,
    List.nil_append]
  unfold verdict at hverdict
  rw [unexplained_response]
  cases hr : response.result with
  | ok token =>
    rw [hr] at hverdict
    obtain ⟨rfl, _, _⟩ := runs_pure_iff.mp hverdict
    exact (if_neg fun hwanted => Bool.noConfusion hwanted.1).symm
  | error e =>
    rw [hr] at hverdict
    obtain ⟨us, _, v, vs, hdiagnose, hpure, rfl⟩ := runs_bind_iff.mp hverdict
    obtain ⟨rfl, _, _⟩ := runs_pure_iff.mp hpure
    rw [List.append_nil, diagnosed_of_diagnoseIf hdiagnose, isNone_delay?]
    rfl

private theorem examines_of_fetchToken {a : Except TokenFailure TokenServer.Token}
    (h : Runs move s (fetchToken c m) ms a s') : Examines c.config.debugAssertions (exchangesOf ms) := by
  cases exchanging_of_runs h with
  | unmade hnow _ => exact (apart_of_within (within_of_runs hnow (asks_books _)) (by decide) (by decide)).examines
  | unanswered hnow _ hdiagnose _ =>
    have hbooks := apart_of_within (within_of_runs hnow (asks_books _)) (by decide) (by decide)
    have hoffers := offers_of_within (within_of_runs hdiagnose (asks_diagnoseIf _ _ _)) (by decide)
    have hdiagnosed := diagnosed_of_diagnoseIf hdiagnose
    rw [exchangesOf_append, exchangesOf_append]
    refine Examines.prepend ⟨?_, ?_⟩ hbooks
    · rw [offers_append, hoffers]
      exact Nat.le_refl 1
    · rw [diagnosed_append, offers_append, hoffers, hdiagnosed]
      cases c.config.debugAssertions <;> rfl
  | @answered t u v _ xs ys zs issuedAt assertion response _ hnow _ hdiagnose _ hsettle =>
    have hbooks := apart_of_within (within_of_runs hnow (asks_books _)) (by decide) (by decide)
    have hoffers := offers_of_within (within_of_runs hdiagnose (asks_diagnoseIf _ _ _)) (by decide)
    have hdiagnosed := diagnosed_of_diagnoseIf hdiagnose
    have hoffers' := offers_of_within (within_of_runs hsettle (asks_settle _ _ _)) (by decide)
    have hdiagnosed' := diagnosed_of_settle hsettle
    have hone : offers (exchangesOf (ys ++ ⟨⟨.party (.exchange assertion m.clientState), .ok response⟩, v⟩ :: zs)) =
        [⟨assertion, .ok response⟩] := by
      rw [exchangesOf_append, exchangesOf_cons, ← List.singleton_append, offers_append, offers_append, hoffers,
        hoffers']
      rfl
    rw [exchangesOf_append]
    refine Examines.prepend ⟨?_, ?_⟩ hbooks
    · rw [hone]
      exact Nat.le_refl 1
    · rw [hone, exchangesOf_append, exchangesOf_cons, ← List.singleton_append, diagnosed_append, diagnosed_append,
        hdiagnosed, hdiagnosed']
      unfold Offer.examined
      cases c.config.debugAssertions with
      | true => simp [diagnosed, diagnosed?]
      | false => cases hu : Offer.unexplained ⟨assertion, .ok response⟩ <;> simp [diagnosed, diagnosed?, hu]

private theorem examines_of_syncMarried (h : Runs move s (syncMarried c initial m forced) ms r s') :
    Examines c.config.debugAssertions (exchangesOf ms) := by
  cases trading_of_runs h with
  | accepted hfetch hpersist hclear hstorage =>
    have hsaved := apart_of_within (within_of_runs hpersist (asks_persist _ _)) (by decide) (by decide)
    have hcleared := apart_of_within (within_of_runs hclear (asks_notice _)) (by decide) (by decide)
    have hsynced := apart_of_within (within_of_runs hstorage (asks_syncStorage _ _ _ _)) (by decide) (by decide)
    rw [exchangesOf_append, exchangesOf_append, exchangesOf_append]
    exact (examines_of_fetchToken hfetch).append (hsaved.append (hcleared.append hsynced))
  | rejected hfetch hpersist hnotice =>
    have hsaved := apart_of_within (within_of_runs hpersist (asks_persist _ _)) (by decide) (by decide)
    have htold := apart_of_within (within_of_runs hnotice (asks_notice _)) (by decide) (by decide)
    rw [exchangesOf_append, exchangesOf_append]
    exact (examines_of_fetchToken hfetch).append (hsaved.append htold)
  | failed hfetch hpersist =>
    have hsaved := apart_of_within (within_of_runs hpersist (asks_persist _ _)) (by decide) (by decide)
    rw [exchangesOf_append]
    exact (examines_of_fetchToken hfetch).append hsaved

private theorem examines_of_run (h : Runs move s (AccountSync.Attempt.run c extras) ms r s') :
    Examines c.config.debugAssertions (exchangesOf ms) := by
  cases arriving_of_runs h with
  | idle hidle => exact (apart_of_within (within_of_idle hidle) (by decide) (by decide)).examines
  | @loaded t u _ xs ys initial _ hopen hload hsync =>
    have hopened := apart_of_within (within_to_load hopen initial) (by decide) (by decide)
    rw [exchangesOf_append, exchangesOf_cons, List.append_cons]
    refine Examines.prepend ?_ hopened
    cases syncing_of_runs hsync with
    | married hlogin _ hmarried =>
      have hlogged := apart_of_within (within_of_runs hlogin asks_login) (by decide) (by decide)
      rw [exchangesOf_append]
      exact (examines_of_syncMarried hmarried).prepend hlogged
    | short hlogin _ hinterval hpersist hnot =>
      have hlogged := apart_of_within (within_of_runs hlogin asks_login) (by decide) (by decide)
      have hasked := apart_of_within (within_of_runs hinterval (asks_requestInterval _)) (by decide) (by decide)
      have hsaved := apart_of_within (within_of_runs hpersist (asks_persist _ _)) (by decide) (by decide)
      have htold := apart_of_within (within_of_runs hnot (asks_notMarried _)) (by decide) (by decide)
      rw [exchangesOf_append, exchangesOf_append, exchangesOf_append]
      exact (hlogged.append (hasked.append (hsaved.append htold))).examines

end Runs

section Upto

variable {α : Type} {parts : List Part}

private theorem upto_of_within {d : Talk α} (hd : d.Asks (Within parts)) (hp : .verifier ∉ parts) :
    Upto Question.Diagnoses d d := by
  refine upto_of_unasked (hd.mono fun q hq hv => hp ?_)
  have hpart : q.part = .verifier := hv
  exact hpart ▸ hq

private theorem upto_diagnoseIf (wanted wanted' : Prop) [Decidable wanted] [Decidable wanted'] (c c' : Client)
    (assertion : String) : Upto Question.Diagnoses (diagnoseIf wanted c assertion) (diagnoseIf wanted' c' assertion) :=
  have hkind : ∀ q, Within [.verifier] q → q.Diagnoses := fun _ hq => List.mem_singleton.mp hq
  upto_of_asked ((asks_diagnoseIf _ _ _).mono hkind) ((asks_diagnoseIf _ _ _).mono hkind)

private theorem upto_settle (c : Client) (always : Bool) (assertion : String) (r : TokenServer.Response) :
    Upto Question.Diagnoses (settle c assertion r) (settle (c.debugging always) assertion r) := by
  rw [settle_eq, settle_eq]
  refine upto_bind (upto_of_within (asks_noteClock c _) (by decide)) fun _ => ?_
  refine upto_bind (upto_of_within (asks_noteBackoff _) (by decide)) fun _ => ?_
  unfold verdict
  cases r.result with
  | ok token => exact .done _
  | error e => exact upto_bind (upto_diagnoseIf _ _ _ _ _) fun _ => .done _

private theorem upto_fetchToken (c : Client) (always : Bool) (m : Married) :
    Upto Question.Diagnoses (fetchToken c m) (fetchToken (c.debugging always) m) := by
  rw [fetchToken_eq, fetchToken_eq]
  refine upto_bind (upto_of_within (asks_books (Ledger.adjustedNow c.tokenHost)) (by decide)) fun issuedAt => ?_
  have hsame : m.generateAssertion (c.debugging always).audience issuedAt
      (seconds (c.debugging always).config.assertionDuration.toNat) =
      m.generateAssertion c.audience issuedAt (seconds c.config.assertionDuration.toNat) := rfl
  rw [hsame]
  cases m.generateAssertion c.audience issuedAt (seconds c.config.assertionDuration.toNat) with
  | error e => exact .done _
  | ok assertion =>
    refine upto_bind (upto_diagnoseIf _ _ _ _ _) fun _ => ?_
    refine upto_bind (upto_of_within (asks_party (List.mem_singleton.mpr rfl)) (by decide : _ ∉ [Part.token])) ?_
    intro answer
    cases answer with
    | error e => exact .done _
    | ok response => exact upto_settle c always assertion response

private theorem upto_syncMarried (c : Client) (always : Bool) (initial : Account) (m : Married) (forced : Bool) :
    Upto Question.Diagnoses (syncMarried c initial m forced) (syncMarried (c.debugging always) initial m forced) := by
  refine upto_bind (upto_fetchToken c always m) fun fetched => ?_
  cases fetched with
  | ok token =>
    refine upto_bind (upto_of_within (asks_persist _ _) (by decide)) fun _ => ?_
    refine upto_bind (upto_of_within (asks_notice _) (by decide)) fun _ => ?_
    exact upto_of_within (asks_syncStorage c m token forced) (by decide)
  | error failure =>
    cases failure with
    | rejected reason =>
      refine upto_bind (upto_of_within (asks_persist _ _) (by decide)) fun _ => ?_
      exact upto_bind (upto_of_within (asks_notice _) (by decide)) fun _ => .done _
    | outcome outcome => exact upto_bind (upto_of_within (asks_persist _ _) (by decide)) fun _ => .done _

private theorem upto_syncAccount (c : Client) (always : Bool) (initial : Account) (forced : Bool) :
    Upto Question.Diagnoses (syncAccount c initial forced) (syncAccount (c.debugging always) initial forced) := by
  refine upto_bind (upto_of_within (asks_login (t := bring c initial)) (by decide)) fun run => ?_
  refine upto_bind (upto_of_within (asks_requestInterval _) (by decide)) fun _ => ?_
  split
  · exact upto_syncMarried c always initial _ forced
  · refine upto_bind (upto_of_within (asks_persist _ _) (by decide)) fun _ => ?_
    exact upto_of_within (asks_notMarried run) (by decide)

private theorem upto_run (c : Client) (always : Bool) (extras : SyncExtras) :
    Upto Question.Diagnoses (run c extras) (run (c.debugging always) extras) := by
  refine upto_bind (upto_of_within (asks_gate _ _) (by decide)) fun first => ?_
  cases first with
  | some outcome => exact .done _
  | none =>
    refine upto_bind (upto_of_within (asks_gate _ _) (by decide)) fun second => ?_
    cases second with
    | some outcome => exact .done _
    | none =>
      refine upto_bind (upto_of_within (asks_books (Schedule.beforeSyncing c.config)) (by decide)) fun _ => ?_
      refine upto_bind (upto_of_unasked (asks_question.mpr nofun)) fun loaded => ?_
      cases loaded with
      | error e => exact .done _
      | ok found =>
        cases found with
        | none => exact .done _
        | some initial => exact upto_syncAccount c always initial extras.forced

end Upto

/-- Attempts in surroundings that answer alike but for the verifier, in related states of these, come to the same and
to related states, and ask and are answered the same but for the verifier, also if one has every assertion looked at
and the other has not. The verifier is asked once at most, and then about the assertion that is offered: if every
assertion is to be looked at, or if there is a response that has no token and asks for no delay. -/
theorem verifier_never_decides (c : Client) (always : Bool) (extras : SyncExtras) :
    (∀ {σ σ' : Type} {R : σ → σ' → Prop} {answer : (q : Question) → σ → q.Answer × σ}
        {answer' : (q : Question) → σ' → q.Answer × σ'} {s : σ} {s' : σ'},
      AlikeBut Question.Diagnoses R answer answer' → R s s' →
      ((run c extras).run answer s).1 = ((run (c.debugging always) extras).run answer' s').1 ∧
      R ((run c extras).run answer s).2 ((run (c.debugging always) extras).run answer' s').2 ∧
      ((run c extras).exchanges answer s).filter (fun x => ¬ x.question.Diagnoses) =
        ((run (c.debugging always) extras).exchanges answer' s').filter (fun x => ¬ x.question.Diagnoses)) ∧
    ∀ xs r, Course (run c extras) xs r → (offers xs).length ≤ 1 ∧
      diagnosed xs = ((offers xs).filter (Offer.examined c.config.debugAssertions)).map Offer.assertion := by
  refine ⟨?_, ?_⟩
  · intro σ σ' R answer answer' s s' halike hs
    obtain ⟨hresult, hstate⟩ := (upto_run c always extras).run_alike halike hs
    exact ⟨hresult, hstate, (upto_run c always extras).exchanges_alike halike hs⟩
  · intro xs r h
    obtain ⟨ms, rfl, hr⟩ := runs_of_course h
    have hexamines := examines_of_run hr
    exact ⟨hexamines.once, hexamines.diagnosed⟩

/-- Worlds that differ in nothing but the state of other parties. -/
structure World.Alike {σ σ' : Type} (w : World σ) (w' : World σ') : Prop where
  ledger : w.ledger = w'.ledger
  accounts : w.accounts = w'.accounts
  said : w.said = w'.said

/-- A provider that signs anything, a token server that grants nothing, and a verifier that counts what it is asked. -/
def auditing (verdict : Except SyncError Verifier.Verdict) : Others Nat := fun q _ asked =>
  match q with
  | .provider (.signCertificate ..) => (.ok "x", 0, asked)
  | .exchange .. => (.ok ⟨401, ⟨401, none, none, none⟩, none, none, .error (.tokenRejected "unknown")⟩, 0, asked)
  | .verify .. => (verdict, 0, asked + 1)
  | q => (silence (.party q), 0, asked)

private theorem alikeBut_auditing (verdict verdict' : Except SyncError Verifier.Verdict) :
    AlikeBut Question.Diagnoses World.Alike (World.answer (auditing verdict)) (World.answer (auditing verdict')) := by
  have hstill : ∀ l : Ledger.State, l.advance 0 = l := by
    intro l
    unfold Ledger.State.advance
    rw [after_zero]
  refine ⟨?_, ?_, ?_⟩
  · rintro q ⟨_, _, _, n⟩ ⟨_, _, _, n'⟩ ⟨rfl, rfl, rfl⟩ hq
    cases q with
    | ledger q => exact ⟨rfl, rfl, rfl, rfl⟩
    | account call => exact ⟨rfl, rfl, rfl, rfl⟩
    | notice event => exact ⟨rfl, rfl, rfl, rfl⟩
    | work duration => exact ⟨rfl, rfl, rfl, rfl⟩
    | party q =>
      cases q with
      | provider request => cases request <;> exact ⟨rfl, rfl, rfl, rfl⟩
      | exchange assertion clientState => exact ⟨rfl, rfl, rfl, rfl⟩
      | verify audience assertion => exact (hq rfl).elim
      | keyPair => exact ⟨rfl, rfl, rfl, rfl⟩
      | interval interval => exact ⟨rfl, rfl, rfl, rfl⟩
      | startEngine session => exact ⟨rfl, rfl, rfl, rfl⟩
      | tell step answer => exact ⟨rfl, rfl, rfl, rfl⟩
  · rintro q w w' ⟨hl, ha, hs⟩ hq
    cases q with
    | party q =>
      cases q with
      | verify audience assertion => exact ⟨(hstill _).trans hl, ha, hs⟩
      | _ => cases hq
    | _ => cases hq
  · rintro q w w' ⟨hl, ha, hs⟩ hq
    cases q with
    | party q =>
      cases q with
      | verify audience assertion => exact ⟨hl.trans (hstill _).symm, ha, hs⟩
      | _ => cases hq
    | _ => cases hq

def unasked : World Nat :=
  { ledger := elsewhere.ledger, accounts := elsewhere.accounts, others := 0 }

theorem verifier_never_decides_unasked :
    let first := (run ⟨{}, "a", "t"⟩ ⟨false⟩).run (World.answer (auditing (.ok (.okay .null)))) unasked
    let second := (run (Client.debugging ⟨{}, "a", "t"⟩ true) ⟨false⟩).run
      (World.answer (auditing (.error .authRequired))) unasked
    first.1 = second.1 ∧ first.2.Alike second.2 ∧ first.2.others = 1 ∧ second.2.others = 1 := by
  obtain ⟨hsame, _⟩ := verifier_never_decides ⟨{}, "a", "t"⟩ true ⟨false⟩
  have halike : World.Alike unasked unasked := ⟨rfl, rfl, rfl⟩
  obtain ⟨hresult, hstate, _⟩ := hsame (alikeBut_auditing (.ok (.okay .null)) (.error .authRequired)) halike
  exact ⟨hresult, hstate, by decide +kernel, by decide +kernel⟩

end Attempt

end AccountSync
