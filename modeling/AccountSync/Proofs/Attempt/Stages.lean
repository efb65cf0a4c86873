import AccountSync.Attempt
import AccountSync.Proofs.Dialogue.Runs

/-!
The stages of an attempt. For each stage that goes on by what it is answered there is a relation with a
constructor for each way through it; what is proved of an attempt follows these cases and does not open
the dialogues again.
-/

set_option autoImplicit false
set_option relaxedAutoImplicit false

namespace AccountSync.Attempt

open Dialogue

abbrev Exchanges := List (Exchange Question.Answer)

abbrev Moments (σ : Type) := List (Moment Question.Answer σ)

abbrev bring (c : Client) (initial : Account) : Login.Talk Login.Run :=
  Login.advance c.config.maxLoginSteps.toNat (seconds c.config.certificateDuration.toNat) initial .married

def diagnoseIf (wanted : Prop) [Decidable wanted] (c : Client) (assertion : String) : Talk Unit :=
  if wanted then diagnose c assertion else pure ()

/-- What becomes of an exchange once note has been taken of it. -/
def verdict (c : Client) (assertion : String) (r : TokenServer.Response) :
    Talk (Except TokenFailure TokenServer.Token) :=
  match r.result with
  | .ok token => pure (.ok token)
  | .error e => do
    diagnoseIf (r.backoff.delay?.isNone ∧ ¬ c.config.debugAssertions) c assertion
    pure (.error (tokenFailure e r.backoff.delay?))

def trade (c : Client) (m : Married) (assertion : String) : Talk (Except TokenFailure TokenServer.Token) := do
  match ← party (.exchange assertion m.clientState) with
  | .error e => pure (.error (.outcome (recoverable e)))
  | .ok response => settle c assertion response

theorem settle_eq (c : Client) (assertion : String) (r : TokenServer.Response) :
    settle c assertion r = (do
      noteClock c r.serverTimestamp
      noteBackoff r.backoff.delay?
      verdict c assertion r) := by
  unfold settle verdict diagnoseIf
  cases r.result with
  | ok token => rfl
  | error e =>
    dsimp only
    split <;> rfl

theorem fetchToken_eq (c : Client) (m : Married) :
    fetchToken c m = (do
      let issuedAt ← books (Ledger.adjustedNow c.tokenHost)
      match m.generateAssertion c.audience issuedAt (seconds c.config.assertionDuration.toNat) with
      | .error e => pure (.error (.outcome (recoverable e)))
      | .ok assertion => do
        diagnoseIf c.config.debugAssertions c assertion
        trade c m assertion) := by
  unfold fetchToken trade diagnoseIf
  congr 1
  funext issuedAt
  cases m.generateAssertion c.audience issuedAt (seconds c.config.assertionDuration.toNat) with
  | error e => rfl
  | ok assertion =>
    dsimp only
    split <;> rfl

variable {σ : Type} (move : σ → Exchange Question.Answer → σ → Prop)

/-- The ways through an attempt: a deadline is in its way, or it proceeds. -/
inductive Attempting (c : Client) (forced : Bool) : σ → Moments σ → SyncOutcome → σ → Prop
  | early {s s' : σ} {ms : Moments σ} {r : SyncOutcome} : Runs move s (gate .scheduler forced) ms (some r) s' →
      Attempting c forced s ms r s'
  | deferred {s t s' : σ} {xs ys : Moments σ} {r : SyncOutcome} :
      Runs move s (gate .scheduler forced) xs none t →
      Runs move t (gate .tokenServer forced) ys (some r) s' →
      Attempting c forced s (xs ++ ys) r s'
  | proceeds {s t u s' : σ} {xs ys zs : Moments σ} {r : SyncOutcome} :
      Runs move s (gate .scheduler forced) xs none t → Runs move t (gate .tokenServer forced) ys none u →
      Runs move u (proceed c forced) zs r s' →
      Attempting c forced s (xs ++ (ys ++ zs)) r s'

/-- The ways on from the deadlines, by what the account store answers. -/
inductive Proceeding (c : Client) (forced : Bool) : σ → Moments σ → SyncOutcome → σ → Prop
  | failed {s t s' : σ} {xs : Moments σ} {kept : Except SyncError Instant} {e : SyncError} :
      Runs move s (books (Schedule.beforeSyncing c.config)) xs kept t →
      move t ⟨.account .load, .error e⟩ s' →
      Proceeding c forced s (xs ++ [⟨⟨.account .load, .error e⟩, s'⟩]) (recoverable e) s'
  | missing {s t s' : σ} {xs : Moments σ} {kept : Except SyncError Instant} :
      Runs move s (books (Schedule.beforeSyncing c.config)) xs kept t →
      move t ⟨.account .load, .ok none⟩ s' →
      Proceeding c forced s (xs ++ [⟨⟨.account .load, .ok none⟩, s'⟩]) (.unrecoverable "no account configured")
        s'
  | loaded {s t u s' : σ} {xs ys : Moments σ} {kept : Except SyncError Instant} {initial : Account}
      {r : SyncOutcome} : Runs move s (books (Schedule.beforeSyncing c.config)) xs kept t →
      move t ⟨.account .load, .ok (some initial)⟩ u → Runs move u (syncAccount c initial forced) ys r s' →
      Proceeding c forced s (xs ++ ⟨⟨.account .load, .ok (some initial)⟩, u⟩ :: ys) r s'

/-- The ways on from a stored account, by where login ends. -/
inductive Syncing (c : Client) (initial : Account) (forced : Bool) :
    σ → Moments σ → SyncOutcome → σ → Prop
  | married {s t s' : σ} {xs ys : Moments σ} {run : Login.Run} {m : Married} {r : SyncOutcome} :
      Runs move s (login (bring c initial)) xs run t → run.state = .married m →
      Runs move t (syncMarried c initial m forced) ys r s' → Syncing c initial forced s (xs ++ ys) r s'
  | short {s t u v s' : σ} {xs ys zs us : Moments σ} {run : Login.Run} {r : SyncOutcome} :
      Runs move s (login (bring c initial)) xs run t → (∀ m, run.state ≠ .married m) →
      Runs move t (requestInterval (Schedule.afterLogin c.config run.state.neededAction)) ys () u →
      Runs move u (persist initial run.state) zs () v → Runs move v (notMarried run) us r s' →
      Syncing c initial forced s (xs ++ (ys ++ (zs ++ us))) r s'

/-- The ways on from a married account, by what its assertion is traded for. -/
inductive Trading (c : Client) (initial : Account) (m : Married) (forced : Bool) :
    σ → Moments σ → SyncOutcome → σ → Prop
  | accepted {s t u v s' : σ} {xs ys zs us : Moments σ} {token : TokenServer.Token} {r : SyncOutcome} :
      Runs move s (fetchToken c m) xs (.ok token) t → Runs move t (persist initial (.married m)) ys () u →
      Runs move u (notice .clear) zs () v → Runs move v (syncStorage c m token forced) us r s' →
      Trading c initial m forced s (xs ++ (ys ++ (zs ++ us))) r s'
  | rejected {s t u s' : σ} {xs ys zs : Moments σ} {reason : String} :
      Runs move s (fetchToken c m) xs (.error (.rejected reason)) t →
      Runs move t (persist initial (.cohabiting m.account)) ys () u →
      Runs move u (notice (.notify m.account.email .cohabiting .needsPassword)) zs () s' →
      Trading c initial m forced s (xs ++ (ys ++ zs)) (.unrecoverable reason) s'
  | failed {s t s' : σ} {xs ys : Moments σ} {r : SyncOutcome} :
      Runs move s (fetchToken c m) xs (.error (.outcome r)) t →
      Runs move t (persist initial (.married m)) ys () s' →
      Trading c initial m forced s (xs ++ ys) r s'

inductive Exchanging (c : Client) (m : Married) :
    σ → Moments σ → Except TokenFailure TokenServer.Token → σ → Prop
  | unmade {s s' : σ} {xs : Moments σ} {issuedAt : Instant} {e : SyncError} :
      Runs move s (books (Ledger.adjustedNow c.tokenHost)) xs issuedAt s' →
      m.generateAssertion c.audience issuedAt (seconds c.config.assertionDuration.toNat) = .error e →
      Exchanging c m s xs (.error (.outcome (recoverable e))) s'
  | unanswered {s t u s' : σ} {xs ys : Moments σ} {issuedAt : Instant} {assertion : String} {e : SyncError} :
      Runs move s (books (Ledger.adjustedNow c.tokenHost)) xs issuedAt t →
      m.generateAssertion c.audience issuedAt (seconds c.config.assertionDuration.toNat) = .ok assertion →
      Runs move t (diagnoseIf c.config.debugAssertions c assertion) ys () u →
      move u ⟨.party (.exchange assertion m.clientState), .error e⟩ s' →
      Exchanging c m s (xs ++ (ys ++ [⟨⟨.party (.exchange assertion m.clientState), .error e⟩, s'⟩]))
        (.error (.outcome (recoverable e))) s'
  | answered {s t u v s' : σ} {xs ys zs : Moments σ} {issuedAt : Instant} {assertion : String}
      {response : TokenServer.Response} {r : Except TokenFailure TokenServer.Token} :
      Runs move s (books (Ledger.adjustedNow c.tokenHost)) xs issuedAt t →
      m.generateAssertion c.audience issuedAt (seconds c.config.assertionDuration.toNat) = .ok assertion →
      Runs move t (diagnoseIf c.config.debugAssertions c assertion) ys () u →
      move u ⟨.party (.exchange assertion m.clientState), .ok response⟩ v →
      Runs move v (settle c assertion response) zs r s' →
      Exchanging c m s
        (xs ++ (ys ++ ⟨⟨.party (.exchange assertion m.clientState), .ok response⟩, v⟩ :: zs)) r s'

variable {move} {c : Client} {forced : Bool} {initial : Account} {m : Married} {s s' : σ} {ms : Moments σ}
  {r : SyncOutcome}

theorem attempting_of_runs {extras : SyncExtras} (h : Runs move s (run c extras) ms r s') :
    Attempting move c extras.forced s ms r s' := by
  obtain ⟨xs, first, t, rest, hfirst, hrest, rfl⟩ := runs_bind_iff.mp h
  cases first with
  | some outcome =>
    obtain ⟨rfl, rfl, rfl⟩ := runs_pure_iff.mp hrest
    rw [List.append_nil]
    exact .early hfirst
  | none =>
    obtain ⟨ys, second, u, zs, hsecond, hproceed, rfl⟩ := runs_bind_iff.mp hrest
    cases second with
    | some outcome =>
      obtain ⟨rfl, rfl, rfl⟩ := runs_pure_iff.mp hproceed
      rw [List.append_nil]
      exact .deferred hfirst hsecond
    | none => exact .proceeds hfirst hsecond hproceed

theorem proceeding_of_runs (h : Runs move s (proceed c forced) ms r s') :
    Proceeding move c forced s ms r s' := by
  obtain ⟨xs, kept, t, rest, hkept, hrest, rfl⟩ := runs_bind_iff.mp h
  obtain ⟨ys, loaded, u, zs, hload, hsync, rfl⟩ := runs_bind_iff.mp hrest
  obtain ⟨rfl, hmove⟩ := runs_question_iff.mp hload
  cases loaded with
  | error e =>
    obtain ⟨rfl, rfl, rfl⟩ := runs_pure_iff.mp hsync
    exact .failed hkept hmove
  | ok found =>
    cases found with
    | none =>
      obtain ⟨rfl, rfl, rfl⟩ := runs_pure_iff.mp hsync
      exact .missing hkept hmove
    | some initial => exact .loaded hkept hmove hsync

theorem syncing_of_runs (h : Runs move s (syncAccount c initial forced) ms r s') :
    Syncing move c initial forced s ms r s' := by
  obtain ⟨xs, run, t, rest, hlogin, hrest, rfl⟩ := runs_bind_iff.mp h
  obtain ⟨ys, _, u, zs, hinterval, hsync, rfl⟩ := runs_bind_iff.mp hrest
  by_cases hm : ∃ m, run.state = .married m
  · obtain ⟨m, hm⟩ := hm
    rw [hm] at hinterval hsync
    obtain ⟨rfl, _, rfl⟩ := runs_pure_iff.mp hinterval
    exact .married hlogin hm hsync
  · have hne : ∀ m, run.state ≠ .married m := fun m he => hm ⟨m, he⟩
    split at hsync
    · rename_i m he
      exact (hne m he).elim
    · obtain ⟨us, _, v, vs, hpersist, hnot, rfl⟩ := runs_bind_iff.mp hsync
      exact .short hlogin hne hinterval hpersist hnot

theorem trading_of_runs (h : Runs move s (syncMarried c initial m forced) ms r s') :
    Trading move c initial m forced s ms r s' := by
  obtain ⟨xs, fetched, t, rest, hfetch, hrest, rfl⟩ := runs_bind_iff.mp h
  cases fetched with
  | ok token =>
    obtain ⟨ys, _, u, zs, hpersist, hclear, rfl⟩ := runs_bind_iff.mp hrest
    obtain ⟨us, _, v, vs, hnotice, hstorage, rfl⟩ := runs_bind_iff.mp hclear
    exact .accepted hfetch hpersist hnotice hstorage
  | error failure =>
    cases failure with
    | rejected reason =>
      obtain ⟨ys, _, u, zs, hpersist, htell, rfl⟩ := runs_bind_iff.mp hrest
      obtain ⟨us, _, v, vs, hnotice, hpure, rfl⟩ := runs_bind_iff.mp htell
      obtain ⟨rfl, rfl, rfl⟩ := runs_pure_iff.mp hpure
      rw [List.append_nil]
      exact .rejected hfetch hpersist hnotice
    | outcome outcome =>
      obtain ⟨ys, _, u, zs, hpersist, hpure, rfl⟩ := runs_bind_iff.mp hrest
      obtain ⟨rfl, rfl, rfl⟩ := runs_pure_iff.mp hpure
      rw [List.append_nil]
      exact .failed hfetch hpersist

theorem exchanging_of_runs {a : Except TokenFailure TokenServer.Token}
    (h : Runs move s (fetchToken c m) ms a s') : Exchanging move c m s ms a s' := by
  rw [fetchToken_eq] at h
  obtain ⟨xs, issuedAt, t, rest, hnow, hrest, rfl⟩ := runs_bind_iff.mp h
  cases hgen : m.generateAssertion c.audience issuedAt (seconds c.config.assertionDuration.toNat) with
  | error e =>
    rw [hgen] at hrest
    obtain ⟨rfl, rfl, rfl⟩ := runs_pure_iff.mp hrest
    rw [List.append_nil]
    exact .unmade hnow hgen
  | ok assertion =>
    rw [hgen] at hrest
    obtain ⟨ys, _, u, zs, hdiagnose, htrade, rfl⟩ := runs_bind_iff.mp hrest
    obtain ⟨us, answer, v, vs, hask, hsettle, rfl⟩ := runs_bind_iff.mp htrade
    obtain ⟨rfl, hmove⟩ := runs_question_iff.mp hask
    cases answer with
    | error e =>
      obtain ⟨rfl, rfl, rfl⟩ := runs_pure_iff.mp hsettle
      exact .unanswered hnow hgen hdiagnose hmove
    | ok response => exact .answered hnow hgen hdiagnose hmove hsettle

theorem result_of_settle {assertion : String} {response : TokenServer.Response}
    {a : Except TokenFailure TokenServer.Token} (h : Runs move s (settle c assertion response) ms a s') :
    a = response.result.mapError fun e => tokenFailure e response.backoff.delay? := by
  rw [settle_eq] at h
  obtain ⟨_, _, _, _, _, hrest, _⟩ := runs_bind_iff.mp h
  obtain ⟨_, _, _, _, _, hverdict, _⟩ := runs_bind_iff.mp hrest
  unfold verdict at hverdict
  cases hr : response.result with
  | ok token =>
    rw [hr] at hverdict
    obtain ⟨_, rfl, _⟩ := runs_pure_iff.mp hverdict
    rfl
  | error e =>
    rw [hr] at hverdict
    obtain ⟨_, _, _, _, _, hp, _⟩ := runs_bind_iff.mp hverdict
    obtain ⟨_, rfl, _⟩ := runs_pure_iff.mp hp
    rfl

end AccountSync.Attempt
