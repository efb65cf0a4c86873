import AccountSync.Proofs.Attempt.Delays
import AccountSync.Proofs.Attempt.Handoff
import AccountSync.Proofs.Attempt.Saving

/-!
What an attempt makes of the token server's answer. `reaching_of_runs` says how an attempt comes to the exchange, of
which there is one at most, and `settled_of_runs` what is taken note of before anything is decided by the result. Main
statement: `exchange_settled`, what follows for the ledger, the account and the outcome from each kind of answer.
-/

set_option autoImplicit false
set_option relaxedAutoImplicit false

namespace AccountSync.Attempt

open Dialogue

/-- The delay that a response asks for: the longest of all, where a time to come back counts on failures only. What is
not asked for is no delay. -/
def requested (b : Http.BackoffSignal) : Nat :=
  let retryAfter := if 200 ≤ b.status ∧ b.status < 300 then 0 else b.retryAfter.getD 0
  seconds (max retryAfter (max (b.backoff.getD 0) (b.weaveBackoff.getD 0)))

def Unchanged (s s' : Ledger.State) : Prop := s'.store = s.store ∧ s'.skews = s.skews

def Question.Unskewing (q : Question) : Prop := ∀ host seconds, q ≠ .ledger (.recordSkew host seconds)

/-- By how much the token server's clock runs ahead, if the response tells its time: that is measured as soon as the
response has come, where both clocks fit 63 bits. -/
def Clocked (c : Client) (server : Option Instant) (v : Ledger.State) (ms : Moments Ledger.State)
    (u : Ledger.State) : Prop :=
  match server with
  | none => u.skews = v.skews
  | some server => ∃ now t rest, v.clock ≤ now ∧ ms = ⟨⟨.ledger .now, now⟩, t⟩ :: rest ∧
      if server.toNat < 0x8000000000000000 ∧ now.toNat < 0x8000000000000000 then
        u.skew (Text.LetterCase.lowerAscii c.tokenHost) = Int.tdiv ((server.toNat : Int) - now.toNat) 1000
      else u.skews = v.skews

private theorem max?_filterMap (x y z : Option Nat) :
    ([x, y, z].filterMap id).max?.getD 0 = max (x.getD 0) (max (y.getD 0) (z.getD 0)) := by
  cases x <;> cases y <;> cases z <;> simp [List.max?, Nat.max_assoc]

theorem getD_total (b : Http.BackoffSignal) : b.total.getD 0 = requested b := by
  have hseconds : ∀ o : Option Nat, (o.map seconds).getD 0 = seconds (o.getD 0) := by
    intro o
    cases o <;> rfl
  unfold Http.BackoffSignal.total Http.BackoffSignal.totalSeconds requested Http.isSuccess
  rw [hseconds, max?_filterMap]
  by_cases hsuccess : 200 ≤ b.status ∧ b.status < 300
  · simp [hsuccess]
  · have hfailure : (decide (200 ≤ b.status) && decide (b.status < 300)) = false := by
      rw [Bool.and_eq_false_iff, decide_eq_false_iff_not, decide_eq_false_iff_not]
      exact Decidable.not_and_iff_not_or_not.mp hsuccess
    rw [hfailure, if_neg hsuccess]
    rfl

theorem delay?_eq (b : Http.BackoffSignal) : b.delay? = if requested b = 0 then none else some (requested b) := by
  unfold Http.BackoffSignal.delay?
  rw [← getD_total]
  cases b.total with
  | none => rfl
  | some d => by_cases hd : d = 0 <;> simp [Option.filter, hd]

section Ways

variable {σ : Type} {move : σ → Exchange Question.Answer → σ → Prop} {c : Client} {m : Married} {extras : SyncExtras}
  {parts : List Part} {assertion tag : String} {answer : Except SyncError TokenServer.Response} {s s' v : σ}
  {ms before rest : Moments σ} {r : SyncOutcome}

private theorem not_exchange_of_confined (h : Confined parts ms) (hp : .token ∉ parts) :
    ⟨⟨.party (.exchange assertion tag), answer⟩, v⟩ ∉ ms :=
  fun hm => hp (h _ hm)

variable (move) in
/-- The way of an attempt to the exchange, and what is left of it from there. -/
inductive Reaching (c : Client) (forced : Bool) (x : Moment Question.Answer σ) (rest : Moments σ) :
    σ → Moments σ → SyncOutcome → σ → Prop
  | intro {s t u w s' : σ} {first during between : Moments σ} {initial : Account} {login : Login.Run} {m : Married}
      {r : SyncOutcome} : Runs move s (opening c forced) first () t →
      move t ⟨.account .load, .ok (some initial)⟩ u → Runs move u (Attempt.login (bring c initial)) during login w →
      login.state = .married m → Runs move w (syncMarried c initial m forced) (between ++ x :: rest) r s' →
      Reaching c forced x rest s (first ++ ⟨⟨.account .load, .ok (some initial)⟩, u⟩ :: (during ++ between)) r s'

theorem reaching_of_runs
    (h : Runs move s (run c extras) (before ++ ⟨⟨.party (.exchange assertion tag), answer⟩, v⟩ :: rest) r s') :
    Reaching move c extras.forced ⟨⟨.party (.exchange assertion tag), answer⟩, v⟩ rest s before r s' := by
  generalize hms : before ++ _ :: rest = ms at h
  cases arriving_of_runs h with
  | idle hidle =>
    have hx : (⟨.party (.exchange assertion tag), answer⟩ : Exchange Question.Answer) ∈ exchangesOf ms := by
      rw [← hms, exchangesOf_append]
      exact List.mem_append_right _ List.mem_cons_self
    have hpart : Part.token ∈ [Part.ledger, Part.account] := within_of_idle hidle _ hx
    exact absurd hpart (by decide)
  | @loaded _ u _ first ys initial _ hopen hload hsync =>
    have hfirst : Confined [.ledger] first := confined_of_runs (asks_opening c extras.forced) hopen
    obtain ⟨as, rfl, has⟩ := split_behind hms.symm (not_exchange_of_confined hfirst (by decide))
    cases as with
    | nil => cases has
    | cons y as =>
      obtain ⟨rfl, hys⟩ := List.cons.inj has
      cases syncing_of_runs hsync with
      | married hlogin hm hmarried =>
        have hduring := confined_of_runs asks_login hlogin
        obtain ⟨between, rfl, rfl⟩ := split_behind hys (not_exchange_of_confined hduring (by decide))
        exact .intro hopen hload hlogin hm hmarried
      | @short _ _ _ _ as bs cs ds _ _ hlogin _ hinterval hpersist hnot =>
        have hother : Confined [.ledger, .identity, .keys, .host, .account, .user] (as ++ (bs ++ (cs ++ ds))) :=
          confined_append.mpr ⟨(confined_of_runs asks_login hlogin).mono (by decide),
            confined_append.mpr ⟨(confined_of_runs (asks_requestInterval _) hinterval).mono (by decide),
              confined_append.mpr ⟨(confined_of_runs (asks_persist _ _) hpersist).mono (by decide),
                (confined_of_runs (asks_notMarried _) hnot).mono (by decide)⟩⟩⟩
        rw [hys] at hother
        exact (not_exchange_of_confined hother (by decide) (List.mem_append_right _ List.mem_cons_self)).elim

variable (move) in
/-- What an exchange comes to once it was answered. -/
inductive Answering (c : Client) (v : σ) :
    Except SyncError TokenServer.Response → Moments σ → Except TokenFailure TokenServer.Token → σ → Prop
  | failed (e : SyncError) : Answering c v (.error e) [] (.error (.outcome (recoverable e))) v
  | settled {s' : σ} {assertion : String} {response : TokenServer.Response} {ms : Moments σ}
      {a : Except TokenFailure TokenServer.Token} : Runs move v (settle c assertion response) ms a s' →
      Answering c v (.ok response) ms a s'

/-- An assertion is exchanged once, and until then the ledger is only looked at. -/
theorem answering_of_fetchToken {a : Except TokenFailure TokenServer.Token}
    (h : Runs move s (fetchToken c m) (before ++ ⟨⟨.party (.exchange assertion tag), answer⟩, v⟩ :: rest) a s') :
    (∀ y ∈ before, y.exchange.question.Looks) ∧ Answering move c v answer rest a s' := by
  have looks : ∀ {t u w : σ} {xs ys : Moments σ} {issuedAt : Instant} {made : String},
      Runs move t (books (Ledger.adjustedNow c.tokenHost)) xs issuedAt u →
      Runs move u (diagnoseIf c.config.debugAssertions c made) ys () w →
      ∀ y ∈ xs ++ ys, y.exchange.question.Looks := by
    intro t u w xs ys issuedAt made hnow hdiagnose y hy
    rcases List.mem_append.mp hy with hy | hy
    · exact (looks_books (Ledger.looks_adjustedNow _)).of_course hnow.1 _ (List.mem_map_of_mem hy)
    · exact (looks_of_within (asks_diagnoseIf _ c made) (by decide)).of_course hdiagnose.1 _ (List.mem_map_of_mem hy)
  have quiet : ∀ {t u w : σ} {xs ys : Moments σ} {issuedAt : Instant} {made : String},
      Runs move t (books (Ledger.adjustedNow c.tokenHost)) xs issuedAt u →
      Runs move u (diagnoseIf c.config.debugAssertions c made) ys () w → Confined [.ledger, .verifier] (xs ++ ys) := by
    intro t u w xs ys issuedAt made hnow hdiagnose
    have hxs : Confined [.ledger, .verifier] xs := (confined_of_runs (asks_books _) hnow).mono (by decide)
    exact confined_append.mpr ⟨hxs, (confined_of_runs (asks_diagnoseIf _ c made) hdiagnose).mono (by decide)⟩
  generalize hms : before ++ _ :: rest = ms at h
  cases exchanging_of_runs h with
  | unmade hnow _ =>
    rw [← hms] at hnow
    exact (not_exchange_of_confined (confined_of_runs (asks_books _) hnow) (by decide)
      (List.mem_append_right _ List.mem_cons_self)).elim
  | @unanswered _ _ _ xs ys _ _ e hnow _ hdiagnose _ =>
    have hquiet : Confined [.ledger, .verifier] (xs ++ ys) := quiet hnow hdiagnose
    rw [← List.append_assoc] at hms
    obtain ⟨rfl, hx, rfl⟩ := (List.append_cons_inj_of_notMem (not_exchange_of_confined hquiet (by decide))
      List.not_mem_nil).mp hms.symm
    cases hx
    exact ⟨looks hnow hdiagnose, .failed e⟩
  | @answered _ _ w _ xs ys zs _ made response _ hnow _ hdiagnose _ hsettle =>
    have hquiet : Confined [.ledger, .verifier] (xs ++ ys) := quiet hnow hdiagnose
    have hzs := confined_of_runs (asks_settle c made response) hsettle
    rw [← List.append_assoc] at hms
    obtain ⟨rfl, hx, rfl⟩ := (List.append_cons_inj_of_notMem (not_exchange_of_confined hquiet (by decide))
      (not_exchange_of_confined hzs (by decide))).mp hms.symm
    cases hx
    exact ⟨looks hnow hdiagnose, .settled hsettle⟩

end Ways

section Records

variable {α : Type} {c : Client} {s s' t u v : Ledger.State} {ms ns : Moments Ledger.State} {parts : List Part}
  {server : Option Instant}

private theorem Elapses.unchanged {x : Exchange Question.Answer} (h : Elapses s x s') (hx : x.question.Looks) :
    Unchanged s s' := by
  have still : (∃ now, s.clock ≤ now ∧ s' = { s with clock := now }) → Unchanged s s' := by
    rintro ⟨now, _, rfl⟩
    exact ⟨rfl, rfl⟩
  obtain ⟨q, a⟩ := x
  cases q with
  | account call => exact still h
  | notice event => exact still h
  | work duration => exact still h
  | party q => exact still h
  | ledger q =>
    obtain ⟨now, _, he⟩ := h
    cases q with
    | now =>
      cases he
      exact ⟨rfl, rfl⟩
    | skew host =>
      cases he
      exact ⟨rfl, rfl⟩
    | recordSkew host seconds => exact hx.elim
    | store call =>
      cases call with
      | get key =>
        cases hf : s.store.fault? (.get key) with
        | none =>
          simp only [Ledger.State.answer, Store.Memory.answer, hf] at he
          cases he
          exact ⟨rfl, rfl⟩
        | some e =>
          simp only [Ledger.State.answer, Store.Memory.answer, hf] at he
          cases he
          exact ⟨rfl, rfl⟩
      | set key value => exact hx.elim
      | remove key => exact hx.elim

private theorem Elapses.skews_eq {x : Exchange Question.Answer} (h : Elapses s x s') (hx : x.question.Unskewing) :
    s'.skews = s.skews := by
  have still : (∃ now, s.clock ≤ now ∧ s' = { s with clock := now }) → s'.skews = s.skews := by
    rintro ⟨now, _, rfl⟩
    rfl
  obtain ⟨q, a⟩ := x
  cases q with
  | account call => exact still h
  | notice event => exact still h
  | work duration => exact still h
  | party q => exact still h
  | ledger q =>
    obtain ⟨now, _, he⟩ := h
    cases q with
    | recordSkew host seconds => exact (hx host seconds rfl).elim
    | now =>
      cases he
      rfl
    | skew host =>
      cases he
      rfl
    | store call =>
      cases he
      rfl

private theorem Unchanged.trans (hst : Unchanged s t) (htu : Unchanged t u) : Unchanged s u :=
  ⟨htu.1.trans hst.1, htu.2.trans hst.2⟩

private theorem unchanged_of_follows (h : Follows Elapses s ms s') (hlooks : ∀ y ∈ ms, y.exchange.question.Looks) :
    Unchanged s s' := by
  refine h.keeps (R := Unchanged) (fun _ => ⟨rfl, rfl⟩) (fun _ _ _ => Unchanged.trans) ?_
  intro t m hm hmove
  exact hmove.unchanged (hlooks m hm)

private theorem skews_of_asks {d : Talk α} {a : α} (h : Runs Elapses s d ms a s') (hd : d.Asks Question.Unskewing) :
    s'.skews = s.skews := by
  have htrans : ∀ s t u : Ledger.State, t.skews = s.skews → u.skews = t.skews → u.skews = s.skews :=
    fun _ _ _ hst htu => htu.trans hst
  refine h.2.keeps (R := fun s s' => s'.skews = s.skews) (fun _ => rfl) htrans ?_
  intro t m hm hmove
  exact hmove.skews_eq (hd.of_course h.1 m.exchange (List.mem_map_of_mem hm))

private theorem unskewing_of_within {d : Talk α} (hd : d.Asks (Within parts)) (hp : .ledger ∉ parts) :
    d.Asks Question.Unskewing := by
  refine hd.mono fun q hq => ?_
  rintro host seconds rfl
  exact hp hq

private theorem unskewing_noteBackoff (delay : Option Nat) : (noteBackoff delay).Asks Question.Unskewing := by
  have hextend : ∀ p d, (books (Ledger.extend p d)).Asks Question.Unskewing := by
    intro p d
    have hd : (Ledger.extend p d).Asks fun q => ∀ host seconds, q ≠ .recordSkew host seconds :=
      Ledger.asks_extend_of nofun (fun _ => nofun) (fun _ => nofun) d
    refine asks_translate hd fun q hq => asks_question.mpr ?_
    rintro host seconds ⟨⟩
    exact hq host seconds rfl
  cases delay with
  | none => trivial
  | some d => exact asks_bind (hextend _ d) fun _ => asks_bind (hextend _ d) fun _ => trivial

private theorem clocked_of_noteClock (h : Runs Elapses v (noteClock c server) ms () u) : Clocked c server v ms u := by
  cases server with
  | none =>
    obtain ⟨_, _, rfl⟩ := runs_pure_iff.mp h
    rfl
  | some server =>
    obtain ⟨xs, skew, t, ys, hobserve, hdone, rfl⟩ := runs_bind_iff.mp h
    obtain ⟨rfl, _, rfl⟩ := runs_pure_iff.mp hdone
    obtain ⟨ns, rfl, hns⟩ := runs_books hobserve
    obtain ⟨as, now, w, bs, hnow, hrecord, rfl⟩ := runs_bind_iff.mp hns
    obtain ⟨rfl, rfl, hle, _⟩ := Ledger.still_of_now hnow
    have hskews : w.skews = v.skews := by
      obtain ⟨_, now, _, he⟩ := runs_question_iff.mp hnow
      exact congrArg (fun r => r.2.skews) he
    rw [List.append_nil]
    refine ⟨w.clock, w, bs.map ofLedger, hle, rfl, ?_⟩
    unfold Ledger.skewBetween? at hrecord
    by_cases hfit : server.toNat < 0x8000000000000000 ∧ w.clock.toNat < 0x8000000000000000
    · rw [if_pos hfit] at hrecord
      rw [if_pos hfit]
      obtain ⟨ds, _, x, es, hset, hpure, rfl⟩ := runs_bind_iff.mp hrecord
      obtain ⟨_, _, rfl⟩ := runs_pure_iff.mp hpure
      obtain ⟨_, now, _, he⟩ := runs_question_iff.mp hset
      cases he
      simp [Ledger.State.skew]
    · rw [if_neg hfit] at hrecord
      rw [if_neg hfit]
      obtain ⟨_, now, _, he⟩ := runs_question_iff.mp hrecord
      cases he
      exact hskews

private theorem Clocked.append (h : Clocked c server v ms t) (hu : u.skews = t.skews) (ns : Moments Ledger.State) :
    Clocked c server v (ms ++ ns) u := by
  cases server with
  | none => exact hu.trans h
  | some server =>
    obtain ⟨now, w, rest, hle, rfl, hskew⟩ := h
    refine ⟨now, w, rest ++ ns, hle, rfl, ?_⟩
    have hsame : ∀ host, u.skew host = t.skew host := by
      intro host
      unfold Ledger.State.skew
      rw [hu]
    rw [hsame, hu]
    exact hskew

/-- Before the result counts for anything, note is taken of the server's time and of the delay it asks for. -/
theorem settled_of_runs {assertion : String} {response : TokenServer.Response}
    {a : Except TokenFailure TokenServer.Token} (hw : v.Working)
    (h : Runs Elapses v (settle c assertion response) ms a u) :
    Ledger.Forward v u ∧ Clocked c response.serverTimestamp v ms u ∧
      (requested response.backoff ≠ 0 → after v.clock (requested response.backoff) ≤ u.earliest .tokenServer ∧
        after v.clock (requested response.backoff) ≤ u.earliest .scheduler) := by
  obtain ⟨hforward, hreach⟩ := settle_reaches hw h
  refine ⟨hforward, ?_, ?_⟩
  · rw [settle_eq] at h
    obtain ⟨xs, _, t, rest, hclock, hrest, rfl⟩ := runs_bind_iff.mp h
    obtain ⟨ys, _, w, zs, hbackoff, hverdict, rfl⟩ := runs_bind_iff.mp hrest
    have hkept := skews_of_asks hbackoff (unskewing_noteBackoff _)
    have hkept' := skews_of_asks hverdict (unskewing_of_within (asks_verdict c assertion response) (by decide))
    exact (clocked_of_noteClock hclock).append (hkept'.trans hkept) (ys ++ zs)
  · intro hd
    refine hreach _ ?_
    rw [delay?_eq, if_neg hd]

private theorem saves_of_refusal {initial : Account} {login : Login.Run} {ls : Login.Exchanges} {m : Married}
    (hlogin : Course (bring c initial) ls login) (hm : login.state = .married m)
    (h : Runs Elapses s (persist initial (.cohabiting m.account)) ms () s') :
    saves (exchangesOf ms) = if initial = .cohabiting m.account then [] else [.cohabiting m.account] := by
  have hkeeps : Login.Keeps initial (.cohabiting m.account) := by
    have hmarried := Login.keeps_of_advance hlogin
    rw [hm] at hmarried
    exact hmarried.trans (Login.keeps_cohabiting m)
  rw [saves_of_persist h]
  by_cases hsame : initial = .cohabiting m.account
  · rw [if_pos ((same_iff_of_keeps hkeeps).mpr hsame.symm), if_pos hsame]
  · rw [if_neg fun he => hsame ((same_iff_of_keeps hkeeps).mp he).symm, if_neg hsame]

/-- What an attempt comes to for want of a token, by the error that came instead of one and the delay asked for. -/
theorem failed_of_tokenFailure {e : SyncError} {b : Http.BackoffSignal} {r : SyncOutcome}
    (h : tokenFailure e b.delay? = .outcome r) : e.isInvalidAuthentication = false ∧
      r = if requested b = 0 then .recoverable e.message else .postponed (requested b) := by
  unfold tokenFailure at h
  cases hinvalid : e.isInvalidAuthentication with
  | true =>
    rw [hinvalid] at h
    cases h
  | false =>
    rw [hinvalid, delay?_eq] at h
    by_cases hd : requested b = 0
    · rw [if_pos hd] at h ⊢
      cases h
      exact ⟨rfl, rfl⟩
    · rw [if_neg hd] at h ⊢
      cases h
      exact ⟨rfl, rfl⟩

private theorem rejected_of_tokenFailure {e : SyncError} {delay : Option Nat} {reason : String}
    (h : tokenFailure e delay = .rejected reason) : e.isInvalidAuthentication = true ∧ reason = e.message := by
  unfold tokenFailure at h
  cases hinvalid : e.isInvalidAuthentication with
  | true =>
    rw [hinvalid] at h
    cases h
    exact ⟨rfl, rfl⟩
  | false =>
    rw [hinvalid] at h
    cases delay <;> cases h

private theorem Elapses.faults_eq {x : Exchange Question.Answer} (h : Elapses s x s') :
    s'.store.faults = s.store.faults := by
  have still : (∃ now, s.clock ≤ now ∧ s' = { s with clock := now }) → s'.store.faults = s.store.faults := by
    rintro ⟨now, _, rfl⟩
    rfl
  obtain ⟨q, a⟩ := x
  cases q with
  | account call => exact still h
  | notice event => exact still h
  | work duration => exact still h
  | party q => exact still h
  | ledger q =>
    obtain ⟨now, _, he⟩ := h
    have hreads : Ledger.Reads { s with clock := now } ⟨q, a⟩ s' := ⟨now, fun _ => rfl, he⟩
    exact hreads.faults_eq

theorem working_of_follows (hw : s.Working) (h : Follows Elapses s ms s') : s'.Working := by
  have htrans : ∀ s t u : Ledger.State, t.store.faults = s.store.faults → u.store.faults = t.store.faults →
      u.store.faults = s.store.faults := fun _ _ _ hst htu => htu.trans hst
  have hfaults : s'.store.faults = s.store.faults :=
    h.keeps (R := fun s s' => s'.store.faults = s.store.faults) (fun _ => rfl) htrans fun _ _ _ hmove => hmove.faults_eq
  exact hfaults.trans hw

/-- What follows from the answer to an exchange: for the ledger, which the rate limit had left in one state and the
answer met in another, for the account, and for the attempt. -/
def Traded (c : Client) (initial : Account) (m : Married) (forced : Bool) (limited v : Ledger.State)
    (rest : Moments Ledger.State) (r : SyncOutcome) (s' : Ledger.State) :
    Except SyncError TokenServer.Response → Prop
  | .error e => r = .recoverable e.message ∧ Unchanged limited s'
  | .ok response =>
    (requested response.backoff ≠ 0 → after v.clock (requested response.backoff) ≤ s'.earliest .tokenServer ∧
      after v.clock (requested response.backoff) ≤ s'.earliest .scheduler) ∧
    match response.result with
    | .ok token => ∃ settling u storing, rest = settling ++ storing ∧
        Clocked c response.serverTimestamp v settling u ∧ Runs Elapses u (syncStorage c m token forced) storing r s'
    | .error e => Clocked c response.serverTimestamp v rest s' ∧
        if e.isInvalidAuthentication then
          r = .unrecoverable e.message ∧
            saves (exchangesOf rest) = if initial = .cohabiting m.account then [] else [.cohabiting m.account]
        else r = if requested response.backoff = 0 then .recoverable e.message
          else .postponed (requested response.backoff)

section Trading

variable {w limited : Ledger.State} {initial : Account} {m : Married} {forced : Bool} {r : SyncOutcome}
  {between during rest : Moments Ledger.State} {assertion : String} {response : TokenServer.Response}

private theorem reaches_of_forward {d : Nat}
    (h : d ≠ 0 → after v.clock d ≤ t.earliest .tokenServer ∧ after v.clock d ≤ t.earliest .scheduler)
    (hf : Ledger.Forward t s') :
    d ≠ 0 → after v.clock d ≤ s'.earliest .tokenServer ∧ after v.clock d ≤ s'.earliest .scheduler := by
  intro hd
  obtain ⟨htoken, hscheduler⟩ := h hd
  exact ⟨UInt64.le_trans htoken (hf.earliest _ Ledger.lasting_tokenServer),
    UInt64.le_trans hscheduler (hf.earliest _ Ledger.lasting_scheduler)⟩

private theorem traded_of_token {token : TokenServer.Token} {ys zs us : Moments Ledger.State} (hv : v.Working)
    (hsettle : Runs Elapses v (settle c assertion response) during (.ok token) t)
    (hpersist : Runs Elapses t (persist initial (.married m)) ys () u)
    (hclear : Runs Elapses u (notice .clear) zs () w)
    (hstorage : Runs Elapses w (syncStorage c m token forced) us r s') :
    Traded c initial m forced limited v (during ++ (ys ++ (zs ++ us))) r s' (.ok response) := by
  obtain ⟨hvt, hclocked, hreach⟩ := settled_of_runs hv hsettle
  have ht := hvt.working hv
  have htu := (pays_of_asks (asks_persist _ _) (by decide) _ _ _ _ ht hpersist).1
  have hu := htu.working ht
  have huw := (pays_of_asks (asks_notice _) (by decide) _ _ _ _ hu hclear).1
  have hws := (pays_syncStorage c m token forced _ _ _ _ (huw.working hu) hstorage).1
  have hresult : response.result = .ok token := by
    have hmap := result_of_settle hsettle
    cases hr : response.result with
    | ok token' =>
      rw [hr] at hmap
      cases hmap
      rfl
    | error e =>
      rw [hr] at hmap
      cases hmap
  refine ⟨reaches_of_forward hreach ((htu.trans huw).trans hws), ?_⟩
  rw [hresult]
  have hskews := skews_of_asks hpersist (unskewing_of_within (asks_persist _ _) (by decide))
  have hskews' := skews_of_asks hclear (unskewing_of_within (asks_notice _) (by decide))
  refine ⟨during ++ (ys ++ zs), w, us, ?_, hclocked.append (hskews'.trans hskews) _, hstorage⟩
  simp only [List.append_assoc]

private theorem traded_of_refusal {reason : String} {ys zs : Moments Ledger.State} {ls : Login.Exchanges}
    {login : Login.Run} (hv : v.Working) (hlogin : Course (bring c initial) ls login) (hm : login.state = .married m)
    (hsettle : Runs Elapses v (settle c assertion response) during (.error (.rejected reason)) t)
    (hpersist : Runs Elapses t (persist initial (.cohabiting m.account)) ys () u)
    (hnotice : Runs Elapses u (notice (.notify m.account.email .cohabiting .needsPassword)) zs () s') :
    Traded c initial m forced limited v (during ++ (ys ++ zs)) (.unrecoverable reason) s' (.ok response) := by
  obtain ⟨hvt, hclocked, hreach⟩ := settled_of_runs hv hsettle
  have ht := hvt.working hv
  have htu := (pays_of_asks (asks_persist _ _) (by decide) _ _ _ _ ht hpersist).1
  have hus := (pays_of_asks (asks_notice _) (by decide) _ _ _ _ (htu.working ht) hnotice).1
  refine ⟨reaches_of_forward hreach (htu.trans hus), ?_⟩
  have hmap := result_of_settle hsettle
  cases hr : response.result with
  | ok token =>
    rw [hr] at hmap
    cases hmap
  | error e =>
    rw [hr] at hmap
    injection hmap with hfailure
    obtain ⟨hinvalid, rfl⟩ := rejected_of_tokenFailure hfailure.symm
    have hskews := skews_of_asks hpersist (unskewing_of_within (asks_persist _ _) (by decide))
    have hskews' := skews_of_asks hnotice (unskewing_of_within (asks_notice _) (by decide))
    refine ⟨hclocked.append (hskews'.trans hskews) _, ?_⟩
    have hquiet := saves_of_within (within_of_runs hsettle (asks_settle _ _ _)) (by decide)
    have hquiet' := saves_of_within (within_of_runs hnotice (asks_notice _)) (by decide)
    rw [if_pos hinvalid, exchangesOf_append, exchangesOf_append, saves_append, saves_append, hquiet, hquiet',
      List.append_nil, List.nil_append]
    exact ⟨rfl, saves_of_refusal hlogin hm hpersist⟩

private theorem traded_of_failure {ys : Moments Ledger.State} (hv : v.Working)
    (hsettle : Runs Elapses v (settle c assertion response) during (.error (.outcome r)) t)
    (hpersist : Runs Elapses t (persist initial (.married m)) ys () s') :
    Traded c initial m forced limited v (during ++ ys) r s' (.ok response) := by
  obtain ⟨hvt, hclocked, hreach⟩ := settled_of_runs hv hsettle
  have hts := (pays_of_asks (asks_persist _ _) (by decide) _ _ _ _ (hvt.working hv) hpersist).1
  refine ⟨reaches_of_forward hreach hts, ?_⟩
  have hmap := result_of_settle hsettle
  cases hr : response.result with
  | ok token =>
    rw [hr] at hmap
    cases hmap
  | error e =>
    rw [hr] at hmap
    injection hmap with hfailure
    obtain ⟨hvalid, houtcome⟩ := failed_of_tokenFailure hfailure.symm
    have hskews := skews_of_asks hpersist (unskewing_of_within (asks_persist _ _) (by decide))
    refine ⟨hclocked.append hskews _, ?_⟩
    rw [if_neg (by rw [hvalid]; exact Bool.false_ne_true)]
    exact houtcome

/-- From a married account to the end. Only what concerns the ledger before the exchange has to be known. -/
theorem traded_of_syncMarried {tag : String} {answer : Except SyncError TokenServer.Response} {login : Login.Run}
    {ls : Login.Exchanges} (hv : v.Working) (hlimited : Unchanged limited w)
    (hlogin : Course (bring c initial) ls login) (hm : login.state = .married m)
    (h : Runs Elapses w (syncMarried c initial m forced)
      (between ++ ⟨⟨.party (.exchange assertion tag), answer⟩, v⟩ :: rest) r s') :
    Traded c initial m forced limited v rest r s' answer := by
  have htrading := trading_of_runs h
  generalize hms : between ++ _ :: rest = ms at h htrading
  cases htrading with
  | @accepted _ _ _ _ xs ys zs us token _ hfetch hpersist hclear hstorage =>
    have hzs := (confined_of_runs (asks_notice _) hclear)
    have hus := (confined_of_runs (asks_syncStorage c m token forced) hstorage)
    have hbehind : Confined [.account, .user, .ledger, .engine, .host] (ys ++ (zs ++ us)) :=
      confined_append.mpr ⟨(confined_of_runs (asks_persist _ _) hpersist).mono (by decide),
        confined_append.mpr ⟨hzs.mono (by decide), hus.mono (by decide)⟩⟩
    obtain ⟨during, rfl, rfl⟩ := split_before hms.symm (not_exchange_of_confined hbehind (by decide))
    cases (answering_of_fetchToken hfetch).2 with
    | settled hsettle => exact traded_of_token hv hsettle hpersist hclear hstorage
  | @rejected _ _ _ xs ys zs reason hfetch hpersist hnotice =>
    have hbehind : Confined [.account, .user] (ys ++ zs) :=
      confined_append.mpr ⟨(confined_of_runs (asks_persist _ _) hpersist).mono (by decide),
        (confined_of_runs (asks_notice _) hnotice).mono (by decide)⟩
    obtain ⟨during, rfl, rfl⟩ := split_before hms.symm (not_exchange_of_confined hbehind (by decide))
    cases (answering_of_fetchToken hfetch).2 with
    | settled hsettle => exact traded_of_refusal hv hlogin hm hsettle hpersist hnotice
  | @failed _ _ xs ys _ hfetch hpersist =>
    have hbehind := confined_of_runs (asks_persist _ _) hpersist
    obtain ⟨during, rfl, rfl⟩ := split_before hms.symm (not_exchange_of_confined hbehind (by decide))
    obtain ⟨hlooks, hanswering⟩ := answering_of_fetchToken hfetch
    cases hanswering with
    | settled hsettle => exact traded_of_failure hv hsettle hpersist
    | failed e =>
      refine ⟨rfl, hlimited.trans (unchanged_of_follows h.2 fun y hy => ?_)⟩
      rcases List.mem_append.mp hy with hy | hy
      · rcases List.mem_append.mp hy with hy | hy
        · exact hlooks y hy
        · obtain rfl := List.mem_singleton.mp hy
          trivial
      · exact (looks_of_within (asks_persist _ _) (by decide)).of_course hpersist.1 _ (List.mem_map_of_mem hy)

end Trading

end Records

/-- Over a store that works, by what the one exchange of an attempt was answered. If it was not answered the attempt is
recoverable, and the ledger is as the rate limit left it. If it was, the server's time and the delay it asks for are
taken note of whatever the result; a token takes the attempt on to storage, a refusal of the credentials ends it and
the certificate is dropped, and any other failure postpones it by the delay asked for, if there is any. -/
theorem exchange_settled (c : Client) (extras : SyncExtras) {s s' v : Ledger.State} {before rest : Moments Ledger.State}
    {assertion tag : String} {answer : Except SyncError TokenServer.Response} {r : SyncOutcome} (hw : s.Working)
    (h : Runs Elapses s (run c extras) (before ++ ⟨⟨.party (.exchange assertion tag), answer⟩, v⟩ :: rest) r s') :
    ∃ first limited later initial ls login m, before = first ++ later ∧
      Runs Elapses s (opening c extras.forced) first () limited ∧
      LoggedIn c initial ls login (exchangesOf before) ∧ login.state = .married m ∧
      Traded c initial m extras.forced limited v rest r s' answer := by
  have hv : v.Working := by
    obtain ⟨u, hbefore, hbehind⟩ := follows_append_iff.mp h.2
    obtain ⟨hmove, _⟩ := follows_cons_iff.mp hbehind
    exact working_of_follows (working_of_follows hw hbefore) (.cons hmove (.nil v))
  obtain ⟨hopen, hload, hlogin, hm, hmarried⟩ := reaching_of_runs h
  rename_i limited u w first during between initial login m
  obtain ⟨ls, hloggedIn⟩ := exists_loggedIn hopen hlogin between
  have hlimited : Unchanged limited w := by
    have hloaded : Unchanged limited u := hload.unchanged trivial
    refine hloaded.trans (unchanged_of_follows hlogin.2 fun y hy => ?_)
    exact (looks_login _).of_course hlogin.1 _ (List.mem_map_of_mem hy)
  refine ⟨first, limited, _, initial, ls, login, m, rfl, hopen, hloggedIn, hm, ?_⟩
  exact traded_of_syncMarried hv hlimited hloggedIn.course hm hmarried

/-- The answer of a token server that is too busy, and tells its time. -/
def overloaded : TokenServer.Response where
  status := 503
  backoff := ⟨503, some 20, some 5, none⟩
  serverTimestamp := some 1700000000000
  alert := none
  result := .error (.tokenServer 503 "busy")

def answerBusy (q : Question) (s : Ledger.State) : q.Answer × Ledger.State :=
  match q with
  | .ledger q => s.answer q
  | .account .load => (.ok (some (.married ⟨⟨"ada@example.org", "u", "s", .zero, .zero, default⟩, "x"⟩)), s)
  | .party (.provider (.signCertificate ..)) => (.ok "x", s)
  | .party (.exchange ..) => (.ok overloaded, s.advance 1000)
  | q => (silence q, s)

private theorem elapses_answerBusy (q : Question) (s : Ledger.State) :
    Elapses s ⟨q, (answerBusy q s).1⟩ (answerBusy q s).2 := by
  cases q with
  | ledger q => exact ⟨s.clock, UInt64.le_refl _, rfl⟩
  | account call =>
    cases call with
    | load => exact ⟨s.clock, UInt64.le_refl _, rfl⟩
    | save new => exact ⟨s.clock, UInt64.le_refl _, rfl⟩
  | notice event => exact ⟨s.clock, UInt64.le_refl _, rfl⟩
  | work duration => exact ⟨s.clock, UInt64.le_refl _, rfl⟩
  | party q =>
    cases q with
    | exchange assertion tag => exact ⟨_, Ledger.le_after _ _, rfl⟩
    | provider request => cases request <;> exact ⟨s.clock, UInt64.le_refl _, rfl⟩
    | verify audience assertion => exact ⟨s.clock, UInt64.le_refl _, rfl⟩
    | keyPair => exact ⟨s.clock, UInt64.le_refl _, rfl⟩
    | interval interval => exact ⟨s.clock, UInt64.le_refl _, rfl⟩
    | startEngine session => exact ⟨s.clock, UInt64.le_refl _, rfl⟩
    | tell step answer => exact ⟨s.clock, UInt64.le_refl _, rfl⟩

/-- An attempt made at some time in these surroundings, and how it leaves the ledger. -/
abbrev busyRun (now : Instant) : SyncOutcome × Ledger.State :=
  (run ⟨{}, "a", "t"⟩ ⟨true⟩).run answerBusy ⟨now, {}, []⟩

private theorem exists_busy (now : Instant) (hasked : ((run ⟨{}, "a", "t"⟩ ⟨true⟩).record answerBusy ⟨now, {}, []⟩).any
      (fun m => m.exchange.question.part = .token) = true) :
    ∃ before assertion tag v rest, Runs Elapses ⟨now, {}, []⟩ (run ⟨{}, "a", "t"⟩ ⟨true⟩)
      (before ++ ⟨⟨.party (.exchange assertion tag), .ok overloaded⟩, v⟩ :: rest) (busyRun now).1 (busyRun now).2 := by
  have hruns := runs_record elapses_answerBusy (run ⟨{}, "a", "t"⟩ ⟨true⟩) ⟨now, {}, []⟩
  obtain ⟨⟨⟨q, a⟩, v⟩, hm, hpart⟩ := List.any_eq_true.mp hasked
  obtain ⟨t, hanswer⟩ := answer_of_record hm
  obtain ⟨before, rest, hsplit⟩ := List.append_of_mem hm
  rw [hsplit] at hruns
  have hq : q.part = .token := of_decide_eq_true hpart
  cases q with
  | party q =>
    cases q with
    | exchange assertion tag =>
      cases hanswer
      exact ⟨before, assertion, tag, v, rest, hruns⟩
    | _ => cases hq
  | _ => cases hq

theorem exchange_settled_busy : ∃ before assertion tag v rest s',
    Runs Elapses ⟨1000000, {}, []⟩ (run ⟨{}, "a", "t"⟩ ⟨true⟩)
      (before ++ ⟨⟨.party (.exchange assertion tag), .ok overloaded⟩, v⟩ :: rest) (.postponed 20000) s' ∧
    after v.clock 20000 ≤ s'.earliest .tokenServer ∧ after v.clock 20000 ≤ s'.earliest .scheduler ∧
    Clocked ⟨{}, "a", "t"⟩ (some 1700000000000) v rest s' := by
  obtain ⟨before, assertion, tag, v, rest, hr⟩ := exists_busy 1000000 (by decide +kernel)
  have hw : Ledger.State.Working ⟨1000000, {}, []⟩ := rfl
  have hd : requested overloaded.backoff = 20000 := by decide
  generalize (busyRun 1000000).1 = r at hr
  generalize (busyRun 1000000).2 = s' at hr
  obtain ⟨_, _, _, _, _, _, _, _, _, _, _, hdelay, hclocked, houtcome⟩ := exchange_settled _ _ hw hr
  change r = .postponed (requested overloaded.backoff) at houtcome
  rw [hd] at hdelay houtcome
  obtain ⟨htoken, hscheduler⟩ := hdelay (by decide)
  rw [houtcome] at hr
  exact ⟨before, assertion, tag, v, rest, s', hr, htoken, hscheduler, hclocked⟩

/-- Where the local clock does not fit 63 bits the server's time is told in vain, although that fits. -/
theorem skew_not_recorded : Ledger.State.Working ⟨0x8000000000000000, {}, []⟩ ∧ ∃ before assertion tag v rest r s',
    Runs Elapses ⟨0x8000000000000000, {}, []⟩ (run ⟨{}, "a", "t"⟩ ⟨true⟩)
      (before ++ ⟨⟨.party (.exchange assertion tag), .ok overloaded⟩, v⟩ :: rest) r s' ∧
    overloaded.serverTimestamp = some 1700000000000 ∧ (1700000000000 : Instant).toNat < 0x8000000000000000 ∧
    s'.skews = [] := by
  obtain ⟨before, assertion, tag, v, rest, hr⟩ := exists_busy 0x8000000000000000 (by decide +kernel)
  exact ⟨rfl, before, assertion, tag, v, rest, _, _, hr, rfl, by decide, by decide +kernel⟩

end AccountSync.Attempt
