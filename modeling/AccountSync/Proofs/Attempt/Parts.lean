import AccountSync.Proofs.Attempt.Stages

/-!
Whom the stages of an attempt talk to. What a stage leaves alone follows from the parts of the surroundings
that it asks: one that does not ask the account store leaves the stored account, one that asks the ledger
only leaves everyone else.
-/

set_option autoImplicit false
set_option relaxedAutoImplicit false

namespace AccountSync.Attempt

open Dialogue

inductive Part
  | ledger | account | user | identity | keys | token | verifier | host | engine
  deriving DecidableEq

def Question.part : Question → Part
  | .ledger _ => .ledger
  | .account _ => .account
  | .notice _ => .user
  | .work _ => .engine
  | .party (.provider _) => .identity
  | .party (.exchange ..) => .token
  | .party (.verify ..) => .verifier
  | .party .keyPair => .keys
  | .party (.interval _) => .host
  | .party (.startEngine _) => .engine
  | .party (.tell ..) => .engine

def Within (parts : List Part) (q : Question) : Prop := q.part ∈ parts

variable {α : Type} {parts others : List Part}

theorem asks_within_mono {d : Talk α} (hd : d.Asks (Within parts)) (h : parts ⊆ others) :
    d.Asks (Within others) :=
  hd.mono fun _ hq => h hq

theorem asks_books (t : Ledger.Talk α) : (books t).Asks (Within [.ledger]) :=
  asks_translate (asks_any t) fun _ _ => asks_question.mpr (List.mem_singleton.mpr rfl)

theorem asks_party {q : Party.Question} (h : (Question.party q).part ∈ parts) : (party q).Asks (Within parts) :=
  asks_question.mpr h

theorem asks_notice (event : Notice.Event) : (notice event).Asks (Within [.user]) :=
  asks_question.mpr (List.mem_singleton.mpr rfl)

theorem asks_gate (purpose : Ledger.Purpose) (forced : Bool) :
    (gate purpose forced).Asks (Within [.ledger]) := by
  refine asks_bind (asks_books _) fun a => ?_
  cases a with
  | error e => trivial
  | ok free =>
    cases free with
    | true => trivial
    | false =>
      refine asks_bind (asks_books _) fun left => ?_
      cases left <;> trivial

theorem asks_login {t : Login.Talk α} : (login t).Asks (Within [.ledger, .identity, .keys]) := by
  refine asks_translate (asks_any t) fun q _ => ?_
  cases q with
  | now => exact asks_within_mono (asks_books _) (by decide)
  | ask r => exact asks_party (by simp [Question.part])
  | keyPair => exact asks_bind (asks_party (by decide)) fun _ => trivial
  | report t s => trivial
  | final s => trivial

theorem asks_requestInterval (interval : Option Schedule.Interval) :
    (requestInterval interval).Asks (Within [.host]) := by
  cases interval with
  | none => trivial
  | some i => exact asks_party (List.mem_singleton.mpr rfl)

theorem asks_persist (initial state : Account) : (persist initial state).Asks (Within [.account]) := by
  unfold persist
  split
  · trivial
  · exact asks_bind (asks_question.mpr (List.mem_singleton.mpr rfl)) fun _ => trivial

theorem asks_notMarried (run : Login.Run) : (notMarried run).Asks (Within [.user]) := by
  unfold notMarried
  dsimp only
  split
  · trivial
  · exact asks_bind (asks_notice _) fun _ => trivial

private theorem asks_diagnose (c : Client) (assertion : String) :
    (diagnose c assertion).Asks (Within [.verifier]) :=
  asks_bind (asks_party (List.mem_singleton.mpr rfl)) fun _ => trivial

theorem asks_noteClock (c : Client) (server : Option Instant) :
    (noteClock c server).Asks (Within [.ledger]) := by
  cases server with
  | none => trivial
  | some now => exact asks_bind (asks_books _) fun _ => trivial

theorem asks_noteBackoff (delay : Option Nat) : (noteBackoff delay).Asks (Within [.ledger]) := by
  cases delay with
  | none => trivial
  | some d => exact asks_bind (asks_books _) fun _ => asks_bind (asks_books _) fun _ => trivial

theorem asks_diagnoseIf (wanted : Prop) [Decidable wanted] (c : Client) (assertion : String) :
    (diagnoseIf wanted c assertion).Asks (Within [.verifier]) := by
  unfold diagnoseIf
  split
  · exact asks_diagnose c assertion
  · trivial

theorem asks_verdict (c : Client) (assertion : String) (r : TokenServer.Response) :
    (verdict c assertion r).Asks (Within [.verifier]) := by
  unfold verdict
  cases r.result with
  | ok token => trivial
  | error e => exact asks_bind (asks_diagnoseIf _ c assertion) fun _ => trivial

theorem asks_settle (c : Client) (assertion : String) (r : TokenServer.Response) :
    (settle c assertion r).Asks (Within [.ledger, .verifier]) := by
  rw [settle_eq]
  refine asks_bind (asks_within_mono (asks_noteClock c _) (by decide)) fun _ => ?_
  refine asks_bind (asks_within_mono (asks_noteBackoff _) (by decide)) fun _ => ?_
  exact asks_within_mono (asks_verdict c assertion r) (by decide)

private theorem asks_trade (c : Client) (m : Married) (assertion : String) :
    (trade c m assertion).Asks (Within [.ledger, .verifier, .token]) := by
  refine asks_bind (asks_party (by simp [Question.part])) fun answer => ?_
  cases answer with
  | error e => trivial
  | ok response => exact asks_within_mono (asks_settle c assertion response) (by decide)

theorem asks_fetchToken (c : Client) (m : Married) :
    (fetchToken c m).Asks (Within [.ledger, .verifier, .token]) := by
  rw [fetchToken_eq]
  refine asks_bind (asks_within_mono (asks_books _) (by decide)) fun issuedAt => ?_
  cases m.generateAssertion c.audience issuedAt (seconds c.config.assertionDuration.toNat) with
  | error e => trivial
  | ok assertion =>
    refine asks_bind ?_ fun _ => asks_trade c m assertion
    exact asks_within_mono (asks_diagnoseIf _ c assertion) (by decide)

private theorem asks_perform (s : Storage.Session) (step : Storage.Step) :
    (perform s step).Asks (Within [.ledger, .engine]) := by
  cases step with
  | observe status headers => exact asks_within_mono (asks_books _) (by decide)
  | requestBackoff delay => exact asks_within_mono (asks_books _) (by decide)
  | shouldBackOff => exact asks_within_mono (asks_books _) (by decide)
  | work duration => exact asks_question.mpr (by simp [Within, Question.part])

theorem asks_drive (s : Storage.Session) (plan : Storage.Plan) :
    (drive s plan).Asks (Within [.ledger, .engine]) := by
  refine asks_translate (asks_any plan) fun step _ => ?_
  refine asks_bind (asks_perform s step) fun answer => ?_
  exact asks_bind (asks_party (by simp [Question.part])) fun _ => trivial

theorem asks_conclude (c : Client) (m : Married) (o : Storage.Outcome) :
    (conclude c m o).Asks (Within [.host, .user]) := by
  cases o with
  | success n => exact asks_bind (asks_party (by simp [Question.part])) fun _ => trivial
  | failed chain => trivial
  | aborted reason => trivial
  | unauthorized => exact asks_bind (asks_party (by simp [Question.part])) fun _ => trivial
  | upgradeRequired =>
    refine asks_bind (asks_party (by simp [Question.part])) fun _ => ?_
    exact asks_bind (asks_within_mono (asks_notice _) (by decide)) fun _ => trivial
  | crashed message => trivial

theorem asks_syncStorage (c : Client) (m : Married) (token : TokenServer.Token) (forced : Bool) :
    (syncStorage c m token forced).Asks (Within [.ledger, .engine, .host, .user]) := by
  unfold syncStorage
  cases Url.parse token.endpoint with
  | error f => trivial
  | ok endpoint =>
    refine asks_bind (asks_within_mono (asks_books _) (by decide)) fun switched => ?_
    cases switched with
    | error e => trivial
    | ok _ =>
      refine asks_bind (asks_within_mono (asks_gate _ _) (by decide)) fun gated => ?_
      cases gated with
      | some outcome => trivial
      | none =>
        refine asks_bind (asks_within_mono (asks_books _) (by decide)) fun skew => ?_
        refine asks_bind (asks_party (by simp [Question.part])) fun plan => ?_
        refine asks_bind (asks_within_mono (asks_drive _ plan) (by decide)) fun outcome => ?_
        exact asks_within_mono (asks_conclude c m outcome) (by decide)

end AccountSync.Attempt
