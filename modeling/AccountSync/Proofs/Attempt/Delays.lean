import AccountSync.Proofs.Attempt.History
import AccountSync.Proofs.Storage.Session

/-!
The delays that an attempt hears of, seen from the ledger. Main statement: `pays_run`, that an attempt takes back
no deadline that is to last, and leaves the scheduler's no earlier than the end of any of these delays.
-/

set_option autoImplicit false
set_option relaxedAutoImplicit false

namespace AccountSync.Attempt

open Dialogue

/-- Surroundings seen as the ledger: time may pass before every answer, and others answer anything. -/
def Elapses (s : Ledger.State) (x : Exchange Question.Answer) (s' : Ledger.State) : Prop :=
  match x with
  | ⟨.ledger q, a⟩ => Ledger.Passes s ⟨q, a⟩ s'
  | _ => ∃ now, s.clock ≤ now ∧ s' = { s with clock := now }

def begun (ms : Moments Ledger.State) : Option Instant := ms.head?.map fun m => m.after.clock

/-- A delay that the token server asked for, and when. -/
def tokenDelay? (m : Moment Question.Answer Ledger.State) : Option (Instant × Nat) :=
  match m.exchange with
  | ⟨.party (.exchange ..), .ok r⟩ => (r.backoff.total.filter (· ≠ 0)).map fun delay => (m.after.clock, delay)
  | _ => none

def tokenDelays (ms : Moments Ledger.State) : List (Instant × Nat) := ms.filterMap tokenDelay?

/-- A delay that the engine has reported to its session, when it hears the answer. -/
def reported? : Exchange Question.Answer → Option Nat
  | ⟨.party (.tell (.requestBackoff delay) _), _⟩ => some delay
  | ⟨.party (.tell (.observe ..) (.ok delay)), _⟩ => delay
  | _ => none

/-- The delays that the engine has reported, and when the session began to take note of them: that is the first
that is asked of the ledger since somebody else was asked. -/
def engineDelays : Option Instant → Moments Ledger.State → List (Instant × Nat)
  | _, [] => []
  | since, m :: ms =>
    if m.exchange.question.part = .ledger then engineDelays (since.or (some m.after.clock)) ms
    else
      (reported? m.exchange).toList.map (fun delay => (since.getD m.after.clock, delay)) ++ engineDelays none ms

structure Covers (s : Ledger.State) (ms : Moments Ledger.State) : Prop where
  token : ∀ x ∈ tokenDelays ms, after x.1 x.2 ≤ s.earliest .scheduler
  engine : ∀ since, ∀ x ∈ engineDelays since ms, after x.1 x.2 ≤ s.earliest .scheduler

variable {s s' t : Ledger.State} {ms ns : Moments Ledger.State} {parts : List Part} {α β : Type}

theorem Elapses.forward {x : Exchange Question.Answer} (h : Elapses s x s') (hp : x.question.part ≠ .ledger) :
    Ledger.Forward s s' := by
  have still : ∀ now, s.clock ≤ now → s' = { s with clock := now } → Ledger.Forward s s' := by
    rintro now hle rfl
    exact Ledger.Still.forward ⟨hle, rfl⟩
  obtain ⟨q, a⟩ := x
  cases q with
  | ledger q => exact (hp rfl).elim
  | account call =>
    obtain ⟨now, hle, he⟩ := h
    exact still now hle he
  | notice event =>
    obtain ⟨now, hle, he⟩ := h
    exact still now hle he
  | work duration =>
    obtain ⟨now, hle, he⟩ := h
    exact still now hle he
  | party q =>
    obtain ⟨now, hle, he⟩ := h
    exact still now hle he

theorem runs_books {d : Ledger.Talk α} {r : α} (h : Runs Elapses s (books d) ms r s') :
    ∃ ns, ms = ns.map ofLedger ∧ Runs Ledger.Passes s d ns r s' :=
  ledger_of_runs (fun _ _ _ _ hm => hm) h

private theorem tokenDelay?_eq_none {m : Moment Question.Answer Ledger.State} (h : m.exchange.question.part ≠ .token) :
    tokenDelay? m = none := by
  obtain ⟨⟨q, a⟩, s⟩ := m
  cases q with
  | ledger q => rfl
  | account call => rfl
  | notice event => rfl
  | work duration => rfl
  | party q =>
    cases q with
    | exchange assertion tag => exact (h rfl).elim
    | provider request => rfl
    | verify audience assertion => rfl
    | keyPair => rfl
    | interval interval => rfl
    | startEngine session => rfl
    | tell step answer => rfl

private theorem reported?_eq_none {x : Exchange Question.Answer} (h : x.question.part ≠ .engine) :
    reported? x = none := by
  obtain ⟨q, a⟩ := x
  cases q with
  | ledger q => rfl
  | account call => rfl
  | notice event => rfl
  | work duration => exact (h rfl).elim
  | party q =>
    cases q with
    | exchange assertion tag => rfl
    | provider request => rfl
    | verify audience assertion => rfl
    | keyPair => rfl
    | interval interval => rfl
    | startEngine session => exact (h rfl).elim
    | tell step answer => exact (h rfl).elim

private theorem tokenDelays_of_confined (h : Confined parts ms) (hp : .token ∉ parts) : tokenDelays ms = [] := by
  refine List.filterMap_eq_nil_iff.mpr fun m hm => tokenDelay?_eq_none fun he => hp ?_
  rw [← he]
  exact h m hm

private theorem engineDelays_cons_ledger {m : Moment Question.Answer Ledger.State} (since : Option Instant)
    (h : m.exchange.question.part = .ledger) :
    engineDelays since (m :: ms) = engineDelays (since.or (some m.after.clock)) ms := by
  rw [engineDelays, if_pos h]

private theorem engineDelays_cons_other {m : Moment Question.Answer Ledger.State} (since : Option Instant)
    (h : m.exchange.question.part ≠ .ledger) : engineDelays since (m :: ms) =
      (reported? m.exchange).toList.map (fun delay => (since.getD m.after.clock, delay)) ++ engineDelays none ms := by
  rw [engineDelays, if_neg h]

private theorem engineDelays_eq_nil (h : ∀ m ∈ ms, reported? m.exchange = none) (since : Option Instant) :
    engineDelays since ms = [] := by
  induction ms generalizing since with
  | nil => rfl
  | cons m ms ih =>
    have hrest : ∀ n ∈ ms, reported? n.exchange = none := fun n hn => h n (List.mem_cons_of_mem m hn)
    by_cases hl : m.exchange.question.part = .ledger
    · rw [engineDelays_cons_ledger since hl]
      exact ih hrest _
    · rw [engineDelays_cons_other since hl, h m List.mem_cons_self]
      exact ih hrest none

private theorem unreported_of_confined (h : Confined parts ms) (hp : .engine ∉ parts) :
    ∀ m ∈ ms, reported? m.exchange = none := by
  intro m hm
  exact reported?_eq_none fun he => hp (he ▸ h m hm)

/-- What is counted in a second part depends on the first by the time that is carried over. -/
theorem engineDelays_append (since : Option Instant) (ms ns : Moments Ledger.State) :
    ∃ since', engineDelays since (ms ++ ns) = engineDelays since ms ++ engineDelays since' ns := by
  induction ms generalizing since with
  | nil => exact ⟨since, rfl⟩
  | cons m ms ih =>
    rw [List.cons_append]
    by_cases hl : m.exchange.question.part = .ledger
    · rw [engineDelays_cons_ledger since hl, engineDelays_cons_ledger since hl]
      exact ih _
    · obtain ⟨since', he⟩ := ih none
      refine ⟨since', ?_⟩
      rw [engineDelays_cons_other since hl, engineDelays_cons_other since hl, he, List.append_assoc]

/-- The time of a step is that of the first moment of the ledger in it. -/
theorem engineDelays_ledger_append (h : Confined [.ledger] ms) (since : Option Instant)
    (ns : Moments Ledger.State) :
    engineDelays since (ms ++ ns) = engineDelays (since.or (begun ms)) ns := by
  induction ms generalizing since with
  | nil =>
    rw [List.nil_append, begun, List.head?_nil, Option.map_none, Option.or_none]
  | cons m ms ih =>
    have hm : m.exchange.question.part = .ledger := List.mem_singleton.mp (h m List.mem_cons_self)
    have hrest : Confined [.ledger] ms := fun n hn => h n (List.mem_cons_of_mem m hn)
    rw [List.cons_append, engineDelays_cons_ledger since hm, ih hrest, Option.or_assoc]
    rfl

private theorem covers_of_confined (h : Confined parts ms) (ht : .token ∉ parts) (he : .engine ∉ parts) :
    Covers s ms := by
  constructor
  · rw [tokenDelays_of_confined h ht]
    simp
  · intro since
    rw [engineDelays_eq_nil (unreported_of_confined h he) since]
    simp

theorem Covers.forward (h : Covers s ms) (hf : Ledger.Forward s s') : Covers s' ms := by
  have hle := hf.earliest .scheduler Ledger.lasting_scheduler
  constructor
  · intro x hx
    exact UInt64.le_trans (h.token x hx) hle
  · intro since x hx
    exact UInt64.le_trans (h.engine since x hx) hle

private theorem Covers.append (hm : Covers s ms) (hn : Covers s ns) : Covers s (ms ++ ns) := by
  constructor
  · intro x hx
    unfold tokenDelays at hx
    rw [List.filterMap_append] at hx
    rcases List.mem_append.mp hx with hx | hx
    · exact hm.token x hx
    · exact hn.token x hx
  · intro since x hx
    obtain ⟨since', he⟩ := engineDelays_append since ms ns
    rw [he] at hx
    rcases List.mem_append.mp hx with hx | hx
    · exact hm.engine since x hx
    · exact hn.engine since' x hx

/-- A stage that keeps all deadlines that are to last, and by which no delay that it hears of is lost. -/
def Pays (d : Talk α) : Prop :=
  ∀ s ms r s', s.Working → Runs Elapses s d ms r s' → Ledger.Forward s s' ∧ Covers s' ms

private theorem pays_bind {d : Talk α} {f : α → Talk β} (hd : Pays d) (hf : ∀ a, Pays (f a)) : Pays (d >>= f) := by
  intro s ms r s' hw h
  obtain ⟨xs, a, t, ys, hx, hy, rfl⟩ := runs_bind_iff.mp h
  obtain ⟨hst, hcx⟩ := hd _ _ _ _ hw hx
  obtain ⟨hts, hcy⟩ := hf a _ _ _ _ (hst.working hw) hy
  exact ⟨hst.trans hts, (hcx.forward hts).append hcy⟩

theorem pays_pure (a : α) : Pays (pure a : Talk α) := by
  intro s ms r s' _ h
  obtain ⟨rfl, _, rfl⟩ := runs_pure_iff.mp h
  have hc : Confined [] ([] : Moments Ledger.State) := by
    intro m hm
    cases hm
  exact ⟨.refl _, covers_of_confined hc (by decide) (by decide)⟩

theorem pays_books {d : Ledger.Talk α} (hd : Ledger.Advances d) : Pays (books d) := by
  intro s ms r s' _ h
  obtain ⟨ns, rfl, hns⟩ := runs_books h
  exact ⟨hd _ _ _ _ hns, covers_of_confined (confined_of_runs (asks_books d) h) (by decide) (by decide)⟩

theorem pays_of_asks {d : Talk α} (hd : d.Asks (Within parts))
    (hp : .ledger ∉ parts ∧ .token ∉ parts ∧ .engine ∉ parts) : Pays d := by
  intro s ms r s' _ h
  have hc := confined_of_runs hd h
  refine ⟨h.2.keeps Ledger.Forward.refl (fun _ _ _ => Ledger.Forward.trans) ?_,
    covers_of_confined hc hp.2.1 hp.2.2⟩
  intro t m hm hmove
  exact hmove.forward fun he => hp.1 (he ▸ hc m hm)

theorem pays_gate (purpose : Ledger.Purpose) (forced : Bool) : Pays (gate purpose forced) := by
  refine pays_bind (pays_books (Ledger.advances_mayProceed purpose forced)) fun free => ?_
  cases free with
  | error e => exact pays_pure _
  | ok free =>
    cases free with
    | true => exact pays_pure _
    | false =>
      refine pays_bind (pays_books (Ledger.advances_remaining purpose)) fun left => ?_
      cases left with
      | error e => exact pays_pure _
      | ok left => exact pays_pure _

private theorem pays_ofLogin (q : Login.Question) : Pays (ofLogin q) := by
  cases q with
  | now => exact pays_books Ledger.advances_now
  | ask r =>
    have hask : (party (.provider r)).Asks (Within [.identity]) := asks_party (List.mem_singleton.mpr rfl)
    exact pays_of_asks hask (by decide)
  | keyPair =>
    have hask : (party .keyPair).Asks (Within [.keys]) := asks_party (List.mem_singleton.mpr rfl)
    exact pays_bind (pays_of_asks hask (by decide)) fun _ => pays_pure _
  | report t state => exact pays_pure _
  | final state => exact pays_pure _

private theorem pays_login (d : Login.Talk α) : Pays (login d) := by
  induction d with
  | done a => exact pays_pure a
  | ask q next ih => exact pays_bind (pays_ofLogin q) ih

private theorem pays_noteClock (c : Client) (server : Option Instant) : Pays (noteClock c server) := by
  cases server with
  | none => exact pays_pure _
  | some server => exact pays_bind (pays_books (Ledger.advances_observeClock _ _)) fun _ => pays_pure _

private theorem noteBackoff_reaches {delay : Option Nat} (hw : s.Working)
    (h : Runs Elapses s (noteBackoff delay) ms () s') : Ledger.Forward s s' ∧ ∀ d, delay = some d →
      after s.clock d ≤ s'.earliest .tokenServer ∧ after s.clock d ≤ s'.earliest .scheduler := by
  cases delay with
  | none =>
    obtain ⟨_, _, rfl⟩ := runs_pure_iff.mp h
    exact ⟨.refl _, nofun⟩
  | some d =>
    obtain ⟨xs, _, t, rest, htoken, hrest, rfl⟩ := runs_bind_iff.mp h
    obtain ⟨ys, _, u, zs, hscheduler, hpure, rfl⟩ := runs_bind_iff.mp hrest
    obtain ⟨_, _, rfl⟩ := runs_pure_iff.mp hpure
    obtain ⟨_, rfl, hfirst⟩ := runs_books htoken
    obtain ⟨_, rfl, hsecond⟩ := runs_books hscheduler
    have hfirst := Ledger.extending_of_runs hfirst
    have hsecond := Ledger.extending_of_runs hsecond
    have hst := hfirst.forward
    refine ⟨hst.trans hsecond.forward, ?_⟩
    rintro _ ⟨⟩
    constructor
    · obtain ⟨v, _, _, hsv, _, hreach⟩ := hfirst.reaches hw
      have hkept := hsecond.forward.earliest .tokenServer Ledger.lasting_tokenServer
      exact UInt64.le_trans (Ledger.after_mono hsv d) (UInt64.le_trans hreach hkept)
    · obtain ⟨v, _, _, htv, _, hreach⟩ := hsecond.reaches (hst.working hw)
      exact UInt64.le_trans (Ledger.after_mono (UInt64.le_trans hst.clock htv) d) hreach

theorem settle_reaches {c : Client} {assertion : String} {response : TokenServer.Response}
    {a : Except TokenFailure TokenServer.Token} (hw : s.Working)
    (h : Runs Elapses s (settle c assertion response) ms a s') :
    Ledger.Forward s s' ∧ ∀ d, response.backoff.delay? = some d →
      after s.clock d ≤ s'.earliest .tokenServer ∧ after s.clock d ≤ s'.earliest .scheduler := by
  rw [settle_eq] at h
  obtain ⟨xs, _, t, rest, hclock, hrest, rfl⟩ := runs_bind_iff.mp h
  obtain ⟨ys, _, u, zs, hbackoff, hverdict, rfl⟩ := runs_bind_iff.mp hrest
  have hst := (pays_noteClock c _ _ _ _ _ hw hclock).1
  obtain ⟨htu, hreach⟩ := noteBackoff_reaches (hst.working hw) hbackoff
  have hu := htu.working (hst.working hw)
  have hus := (pays_of_asks (asks_verdict c assertion response) (by decide) _ _ _ _ hu hverdict).1
  refine ⟨(hst.trans htu).trans hus, ?_⟩
  intro d hd
  have hlater := Ledger.after_mono hst.clock d
  have kept : ∀ p, Ledger.Lasting p → after t.clock d ≤ u.earliest p → after s.clock d ≤ s'.earliest p :=
    fun p hp hle => UInt64.le_trans (UInt64.le_trans hlater hle) (hus.earliest p hp)
  obtain ⟨htoken, hscheduler⟩ := hreach d hd
  exact ⟨kept _ Ledger.lasting_tokenServer htoken, kept _ Ledger.lasting_scheduler hscheduler⟩

private theorem pays_trade (c : Client) (m : Married) (assertion : String) : Pays (trade c m assertion) := by
  intro s ms r s' hw h
  obtain ⟨xs, answer, t, ys, hask, hsettle, rfl⟩ := runs_bind_iff.mp h
  obtain ⟨rfl, hmove⟩ := runs_question_iff.mp hask
  have hst : Ledger.Forward s t := hmove.forward (by simp [Question.part])
  cases answer with
  | error e =>
    obtain ⟨rfl, _, rfl⟩ := runs_pure_iff.mp hsettle
    refine ⟨hst, ?_, ?_⟩
    · intro x hx
      cases hx
    · intro since x hx
      cases hx
  | ok response =>
    obtain ⟨hts, hreach⟩ := settle_reaches (hst.working hw) hsettle
    have hquiet := confined_of_runs (asks_settle c assertion response) hsettle
    have hrest : Covers s' ys := covers_of_confined hquiet (by decide) (by decide)
    refine ⟨hst.trans hts, Covers.append ⟨?_, ?_⟩ hrest⟩
    · intro x hx
      obtain ⟨n, hn, hdelay⟩ := List.mem_filterMap.mp hx
      obtain rfl := List.mem_singleton.mp hn
      obtain ⟨d, hd, rfl⟩ := Option.map_eq_some_iff.mp hdelay
      exact (hreach d hd).2
    · intro since x hx
      cases hx

private theorem pays_fetchToken (c : Client) (m : Married) : Pays (fetchToken c m) := by
  rw [fetchToken_eq]
  refine pays_bind (pays_books (Ledger.advances_adjustedNow _)) fun issuedAt => ?_
  cases m.generateAssertion c.audience issuedAt (seconds c.config.assertionDuration.toNat) with
  | error e => exact pays_pure _
  | ok assertion =>
    exact pays_bind (pays_of_asks (asks_diagnoseIf _ c assertion) (by decide)) fun _ => pays_trade c m assertion

private theorem engineDelays_append_other {m : Moment Question.Answer Ledger.State} (since : Option Instant)
    (ms ns : Moments Ledger.State) (h : m.exchange.question.part ≠ .ledger) :
    engineDelays since (ms ++ m :: ns) = engineDelays since (ms ++ [m]) ++ engineDelays none ns := by
  induction ms generalizing since with
  | nil =>
    rw [List.nil_append, List.nil_append, engineDelays_cons_other since h, engineDelays_cons_other since h]
    simp [engineDelays]
  | cons n ms ih =>
    rw [List.cons_append, List.cons_append]
    by_cases hl : n.exchange.question.part = .ledger
    · rw [engineDelays_cons_ledger since hl, engineDelays_cons_ledger since hl]
      exact ih _
    · rw [engineDelays_cons_other since hl, engineDelays_cons_other since hl, ih none, List.append_assoc]

variable {x : Storage.Session}

/-- A step of an engine. What it is told of a delay has been taken note of since the step began. -/
theorem perform_reaches {step : Storage.Step} {a : step.Answer} (hw : s.Working)
    (h : Runs Elapses s (perform x step) ms a s') :
    Ledger.Forward s s' ∧ (∀ m ∈ ms, reported? m.exchange = none) ∧
      ∀ delay, reported? ⟨.party (.tell step a), ()⟩ = some delay →
        Confined [.ledger] ms ∧ ∃ t, begun ms = some t ∧ after t delay ≤ s'.earliest .scheduler := by
  cases step with
  | observe status headers =>
    have hc := confined_of_runs (asks_books _) h
    obtain ⟨ns, rfl, hns⟩ := runs_books h
    obtain ⟨now, rfl, hreach⟩ := Storage.Session.observe_reaches hw hns
    have hf := Storage.Session.advances_observe x status headers _ _ _ _ hns
    refine ⟨hf, unreported_of_confined hc (by decide), ?_⟩
    intro delay hd
    obtain ⟨m, rest, rfl, hle⟩ := hreach delay hd
    exact ⟨hc, _, rfl, hle⟩
  | requestBackoff delay =>
    have hc := confined_of_runs (asks_books _) h
    obtain ⟨ns, rfl, hns⟩ := runs_books h
    obtain ⟨rfl, t, rest, rfl, _, hle⟩ := Storage.Session.requestBackoff_reaches hw hns
    have hf := Storage.Session.advances_requestBackoff x delay _ _ _ _ hns
    refine ⟨hf, unreported_of_confined hc (by decide), ?_⟩
    rintro _ ⟨⟩
    exact ⟨hc, _, rfl, hle⟩
  | shouldBackOff =>
    have hc := confined_of_runs (asks_books _) h
    obtain ⟨ns, rfl, hns⟩ := runs_books h
    have hf := Storage.Session.advances_shouldBackOff x _ _ _ _ hns
    exact ⟨hf, unreported_of_confined hc (by decide), nofun⟩
  | work duration =>
    obtain ⟨rfl, hmove⟩ := runs_question_iff.mp h
    refine ⟨hmove.forward (by simp [Question.part]), ?_, nofun⟩
    intro m hm
    obtain rfl := List.mem_singleton.mp hm
    rfl

theorem drive_reaches {plan : Storage.Plan} {r : Storage.Outcome} (hw : s.Working)
    (h : Runs Elapses s (drive x plan) ms r s') :
    Ledger.Forward s s' ∧ ∀ y ∈ engineDelays none ms, after y.1 y.2 ≤ s'.earliest .scheduler := by
  induction plan generalizing s ms with
  | done o =>
    obtain ⟨rfl, _, rfl⟩ := runs_pure_iff.mp h
    exact ⟨.refl _, nofun⟩
  | ask step next ih =>
    obtain ⟨xs, a, u, rest, hstep, hrest, rfl⟩ := runs_bind_iff.mp h
    obtain ⟨ys, b, t, zs, hperform, htold, rfl⟩ := runs_bind_iff.mp hstep
    obtain ⟨us, _, v, vs, htell, hpure, rfl⟩ := runs_bind_iff.mp htold
    obtain ⟨rfl, hmove⟩ := runs_question_iff.mp htell
    obtain ⟨rfl, rfl, rfl⟩ := runs_pure_iff.mp hpure
    obtain ⟨hst, hquiet, hreach⟩ := perform_reaches hw hperform
    have htu : Ledger.Forward t u := hmove.forward (by simp [Question.part])
    obtain ⟨hus, hlater⟩ := ih a ((hst.trans htu).working hw) hrest
    have hle := (htu.trans hus).earliest .scheduler Ledger.lasting_scheduler
    refine ⟨(hst.trans htu).trans hus, ?_⟩
    intro y hy
    have hother : (Question.party (.tell step a)).part ≠ .ledger := by simp [Question.part]
    rw [List.append_nil, List.append_assoc, List.singleton_append,
      engineDelays_append_other none ys rest hother] at hy
    rcases List.mem_append.mp hy with hy | hy
    · cases hd : reported? ⟨.party (.tell step a), ()⟩ with
      | none =>
        have hall : ∀ m ∈ ys ++ [⟨⟨.party (.tell step a), ()⟩, u⟩], reported? m.exchange = none := by
          intro m hm
          rcases List.mem_append.mp hm with hm | hm
          · exact hquiet m hm
          · obtain rfl := List.mem_singleton.mp hm
            exact hd
        rw [engineDelays_eq_nil hall] at hy
        cases hy
      | some delay =>
        obtain ⟨hledger, t0, hbegun, hkept⟩ := hreach delay hd
        rw [engineDelays_ledger_append hledger, engineDelays_cons_other _ hother, hd, hbegun] at hy
        obtain rfl := List.mem_singleton.mp hy
        exact UInt64.le_trans hkept hle
    · exact hlater y hy

/-- A sync with a storage host, from where the engine is started. -/
def engage (c : Client) (m : Married) (x : Storage.Session) : Talk SyncOutcome := do
  let plan ← party (.startEngine x)
  let outcome ← drive x plan
  conclude c m outcome

private theorem pays_engage (c : Client) (m : Married) (x : Storage.Session) : Pays (engage c m x) := by
  intro s ms r s' hw h
  have htoken : Confined [.ledger, .engine, .host, .user] ms := by
    refine confined_of_runs ?_ h
    refine asks_bind (asks_party (by simp [Question.part])) fun plan => ?_
    refine asks_bind (asks_within_mono (asks_drive x plan) (by decide)) fun outcome => ?_
    exact asks_within_mono (asks_conclude c m outcome) (by decide)
  obtain ⟨xs, plan, t, rest, hstart, hrest, rfl⟩ := runs_bind_iff.mp h
  obtain ⟨ys, outcome, u, zs, hdrive, hend, rfl⟩ := runs_bind_iff.mp hrest
  obtain ⟨rfl, hmove⟩ := runs_question_iff.mp hstart
  have hst : Ledger.Forward s t := hmove.forward (by simp [Question.part])
  obtain ⟨htu, hdelays⟩ := drive_reaches (hst.working hw) hdrive
  have hu := htu.working (hst.working hw)
  obtain ⟨hus, hcovers⟩ := pays_of_asks (asks_conclude c m outcome) (by decide) _ _ _ _ hu hend
  refine ⟨(hst.trans htu).trans hus, ?_, ?_⟩
  · rw [tokenDelays_of_confined htoken (by decide)]
    simp
  · intro since y hy
    -- The engine is started after whatever came before, so nothing is carried over.
    have hother : (Question.party (.startEngine x)).part ≠ .ledger := by simp [Question.part]
    rw [List.singleton_append, engineDelays_cons_other since hother] at hy
    obtain ⟨since', he⟩ := engineDelays_append none ys zs
    rw [he] at hy
    change y ∈ engineDelays none ys ++ engineDelays since' zs at hy
    rcases List.mem_append.mp hy with hy | hy
    · exact UInt64.le_trans (hdelays y hy) (hus.earliest .scheduler Ledger.lasting_scheduler)
    · exact hcovers.engine since' y hy

theorem pays_syncStorage (c : Client) (m : Married) (token : TokenServer.Token) (forced : Bool) :
    Pays (syncStorage c m token forced) := by
  unfold syncStorage
  cases Url.parse token.endpoint with
  | error f => exact pays_pure _
  | ok endpoint =>
    refine pays_bind (pays_books (Ledger.advances_switchHost _)) fun switched => ?_
    cases switched with
    | error e => exact pays_pure _
    | ok _ =>
      refine pays_bind (pays_gate _ _) fun gated => ?_
      cases gated with
      | some outcome => exact pays_pure _
      | none => exact pays_bind (pays_books (Ledger.advances_skew _)) fun skew => pays_engage c m _

private theorem pays_syncMarried (c : Client) (initial : Account) (m : Married) (forced : Bool) :
    Pays (syncMarried c initial m forced) := by
  refine pays_bind (pays_fetchToken c m) fun fetched => ?_
  cases fetched with
  | ok token =>
    refine pays_bind (pays_of_asks (asks_persist _ _) (by decide)) fun _ => ?_
    exact pays_bind (pays_of_asks (asks_notice _) (by decide)) fun _ => pays_syncStorage c m token forced
  | error failure =>
    cases failure with
    | rejected reason =>
      refine pays_bind (pays_of_asks (asks_persist _ _) (by decide)) fun _ => ?_
      exact pays_bind (pays_of_asks (asks_notice _) (by decide)) fun _ => pays_pure _
    | outcome outcome => exact pays_bind (pays_of_asks (asks_persist _ _) (by decide)) fun _ => pays_pure _

theorem pays_syncAccount (c : Client) (initial : Account) (forced : Bool) :
    Pays (syncAccount c initial forced) := by
  refine pays_bind (pays_login _) fun run => ?_
  refine pays_bind (pays_of_asks (asks_requestInterval _) (by decide)) fun _ => ?_
  split
  · exact pays_syncMarried c initial _ forced
  · refine pays_bind (pays_of_asks (asks_persist _ _) (by decide)) fun _ => ?_
    exact pays_of_asks (asks_notMarried _) (by decide)

private theorem pays_proceed (c : Client) (forced : Bool) : Pays (proceed c forced) := by
  refine pays_bind (pays_books (Ledger.advances_extend _ _)) fun _ => ?_
  have hload : (question (Question.account .load) : Talk _).Asks (Within [.account]) :=
    asks_question.mpr (List.mem_singleton.mpr rfl)
  refine pays_bind (pays_of_asks hload (by decide)) fun loaded => ?_
  cases loaded with
  | error e => exact pays_pure _
  | ok found =>
    cases found with
    | none => exact pays_pure _
    | some initial => exact pays_syncAccount c initial forced

theorem pays_run (c : Client) (extras : SyncExtras) : Pays (run c extras) := by
  refine pays_bind (pays_gate _ _) fun first => ?_
  cases first with
  | some outcome => exact pays_pure _
  | none =>
    refine pays_bind (pays_gate _ _) fun second => ?_
    cases second with
    | some outcome => exact pays_pure _
    | none => exact pays_proceed c extras.forced

end AccountSync.Attempt
