import AccountSync.Proofs.Attempt.Exchange
import AccountSync.Proofs.Attempt.Story
import AccountSync.Proofs.Store.Persistence

/-!
What the deadlines of the scheduler and the token server do to an attempt, in worlds whose store may fail at any call
(`World.Falters`). `gating_of_runs` says what one gate comes to. Main statement: `waits_for_deadlines`, that an attempt
that has to wait is postponed by exactly what is left and changes nothing, and that a forced one never waits.
-/

set_option autoImplicit false
set_option relaxedAutoImplicit false

namespace AccountSync.Attempt

open Dialogue

/-- A world answers, or a call of the ledger's store fails and leaves all as it was. -/
inductive World.Falters {σ : Type} (others : Others σ) (w : World σ) : Exchange Question.Answer → World σ → Prop
  | answers (q : Question) : Falters others w ⟨q, (World.answer others q w).1⟩ (World.answer others q w).2
  | fails (call : Store.Call) (a : call.Answer) : call.isOk a = false → Falters others w ⟨.ledger (.store call), a⟩ w

def fault? : Exchange Question.Answer → Option SyncError
  | ⟨.ledger (.store (.get _)), .error e⟩ => some e
  | ⟨.ledger (.store (.set ..)), .error e⟩ => some e
  | ⟨.ledger (.store (.remove _)), .error e⟩ => some e
  | _ => none

def storeFaults (xs : Exchanges) : List SyncError := xs.filterMap fault?

/-- Nothing has changed in a world, and nobody was asked for anything but the time and the texts of the ledger. -/
structure Unmoved {σ : Type} (w : World σ) (xs : Exchanges) (w' : World σ) : Prop where
  same : w' = w
  looked : ∀ x ∈ xs, x.question = .ledger .now ∨ ∃ key, x.question = .ledger (.store (.get key))

def Free (s : Ledger.State) (p : Ledger.Purpose) : Prop := ∀ d, s.deadline? p = some d → d ≤ s.clock

/-- The deadline that keeps an attempt waiting: the scheduler's, or if that is free the token server's. -/
structure Blocks (s : Ledger.State) (p : Ledger.Purpose) (d : Instant) : Prop where
  recorded : s.deadline? p = some d
  later : s.clock < d
  first : p = .scheduler ∨ p = .tokenServer ∧ Free s .scheduler

section Gate

variable {σ : Type} {others : Others σ} {w w' v : World σ} {ms : Moments (World σ)}
  {ns : List (Moment Ledger.Question.Answer (World σ))} {p : Ledger.Purpose} {xs ys : Exchanges} {key : String}

theorem storeFaults_append : storeFaults (xs ++ ys) = storeFaults xs ++ storeFaults ys := List.filterMap_append

private theorem Unmoved.append (hx : Unmoved w xs v) (hy : Unmoved v ys w') : Unmoved w (xs ++ ys) w' := by
  refine ⟨hy.same.trans hx.same, fun x hm => ?_⟩
  rcases List.mem_append.mp hm with hm | hm
  · exact hx.looked x hm
  · exact hy.looked x hm

/-- The ledger of a world, as the world answers for it. -/
abbrev FaltersFor (others : Others σ) (w : World σ) (x : Exchange Ledger.Question.Answer) (w' : World σ) : Prop :=
  World.Falters others w ⟨.ledger x.question, x.answer⟩ w'

private theorem books_of_falters {α : Type} {d : Ledger.Talk α} {a : α}
    (h : Runs (World.Falters others) w (books d) ms a w') :
    ∃ ns, ms = ns.map ofLedger ∧ Runs (FaltersFor others) w d ns a w' :=
  ledger_of_runs (fun _ _ _ _ hm => hm) h

private theorem now_of_falters {a : Instant} (h : Runs (FaltersFor others) w Ledger.now ns a w') :
    ns = [⟨⟨.now, a⟩, w'⟩] ∧ a = w.ledger.clock ∧ w' = w := by
  obtain ⟨rfl, hmove⟩ := runs_question_iff.mp h
  cases hmove with
  | answers => exact ⟨rfl, rfl, rfl⟩

private theorem get_of_falters {a : Except SyncError (Option String)}
    (h : Runs (FaltersFor others) w (Ledger.get key) ns a w') :
    ns = [⟨⟨.store (.get key), a⟩, w'⟩] ∧ w' = w ∧ (a = .ok (w.ledger.text key) ∨ ∃ e, a = .error e) := by
  obtain ⟨rfl, hmove⟩ := runs_question_iff.mp h
  refine ⟨rfl, ?_⟩
  cases hmove with
  | answers =>
    cases hf : w.ledger.store.fault? (.get key) with
    | none =>
      simp only [World.answer, Ledger.State.answer, Store.Memory.answer, hf]
      exact ⟨trivial, .inl rfl⟩
    | some e =>
      simp only [World.answer, Ledger.State.answer, Store.Memory.answer, hf]
      exact ⟨trivial, .inr ⟨e, rfl⟩⟩
  | fails _ _ ha =>
    cases a with
    | error e => exact ⟨rfl, .inr ⟨e, rfl⟩⟩
    | ok text => cases ha

private theorem remaining_of_falters {a : Except SyncError Nat}
    (h : Runs (FaltersFor others) w (Ledger.remaining p) ns a w') :
    Unmoved w (exchangesOf (ns.map ofLedger)) w' ∧
      (storeFaults (exchangesOf (ns.map ofLedger)) = [] ∧
          a = .ok (Ledger.timeLeft w.ledger.clock (w.ledger.deadline? p)) ∨
        ∃ e, storeFaults (exchangesOf (ns.map ofLedger)) = [e] ∧ a = .error e) := by
  obtain ⟨xs, now, v, rest, hnow, hrest, rfl⟩ := runs_bind_iff.mp h
  obtain ⟨rfl, rfl, rfl⟩ := now_of_falters hnow
  obtain ⟨ys, found, u, zs, hfound, hpure, rfl⟩ := runs_bind_iff.mp hrest
  obtain ⟨rfl, rfl, rfl⟩ := runs_pure_iff.mp hpure
  obtain ⟨us, text, t, vs, hget, hdone, rfl⟩ := runs_bind_iff.mp hfound
  obtain ⟨rfl, rfl, rfl⟩ := runs_pure_iff.mp hdone
  obtain ⟨rfl, rfl, htext⟩ := get_of_falters hget
  refine ⟨⟨rfl, ?_⟩, ?_⟩
  · intro x hx
    rcases List.mem_cons.mp hx with rfl | hx
    · exact .inl rfl
    · obtain rfl := List.mem_singleton.mp hx
      exact .inr ⟨_, rfl⟩
  · rcases htext with rfl | ⟨e, rfl⟩
    · exact .inl ⟨rfl, rfl⟩
    · exact .inr ⟨e, rfl, rfl⟩

inductive Gating (s : Ledger.State) (p : Ledger.Purpose) (xs : Exchanges) : Option SyncOutcome → Prop
  | passes : storeFaults xs = [] → Ledger.timeLeft s.clock (s.deadline? p) = 0 → Gating s p xs none
  | waits : storeFaults xs = [] → Ledger.timeLeft s.clock (s.deadline? p) ≠ 0 →
      Gating s p xs (some (.postponed (Ledger.timeLeft s.clock (s.deadline? p))))
  | fails (e : SyncError) : storeFaults xs = [e] → Gating s p xs (some (recoverable e))

/-- A gate reads a deadline once to see whether to wait, and once more to tell how long; either may fail. -/
theorem gating_of_runs {a : Option SyncOutcome} (h : Runs (World.Falters others) w (gate p false) ms a w') :
    Unmoved w (exchangesOf ms) w' ∧ Gating w.ledger p (exchangesOf ms) a := by
  obtain ⟨xs, free, v, rest, hmay, hrest, rfl⟩ := runs_bind_iff.mp h
  obtain ⟨ns, rfl, hfree⟩ := books_of_falters hmay
  obtain ⟨us, left, u, vs, hleft, hpure, rfl⟩ := runs_bind_iff.mp hfree
  obtain ⟨rfl, rfl, rfl⟩ := runs_pure_iff.mp hpure
  obtain ⟨hunmoved, ⟨hquiet, rfl⟩ | ⟨e, hfault, rfl⟩⟩ := remaining_of_falters hleft
  · obtain rfl := hunmoved.same
    rw [List.append_nil]
    by_cases hzero : Ledger.timeLeft v.ledger.clock (v.ledger.deadline? p) = 0
    · rw [Except.map, decide_eq_true hzero] at hrest
      obtain ⟨rfl, rfl, rfl⟩ := runs_pure_iff.mp hrest
      rw [List.append_nil]
      exact ⟨hunmoved, .passes hquiet hzero⟩
    · rw [Except.map, decide_eq_false hzero] at hrest
      obtain ⟨ys, again, t, zs, hagain, hpure, rfl⟩ := runs_bind_iff.mp hrest
      obtain ⟨ks, rfl, hks⟩ := books_of_falters hagain
      obtain ⟨hunmoved', hread⟩ := remaining_of_falters hks
      rcases hread with ⟨hquiet', rfl⟩ | ⟨e, hfault, rfl⟩
      · obtain ⟨rfl, rfl, rfl⟩ := runs_pure_iff.mp hpure
        rw [List.append_nil, exchangesOf_append]
        refine ⟨hunmoved.append hunmoved', .waits ?_ hzero⟩
        rw [storeFaults_append, hquiet, hquiet']
        rfl
      · obtain ⟨rfl, rfl, rfl⟩ := runs_pure_iff.mp hpure
        rw [List.append_nil, exchangesOf_append]
        refine ⟨hunmoved.append hunmoved', .fails e ?_⟩
        rw [storeFaults_append, hquiet, hfault]
        rfl
  · obtain ⟨rfl, rfl, rfl⟩ := runs_pure_iff.mp hrest
    rw [List.append_nil, List.append_nil]
    exact ⟨hunmoved, .fails e hfault⟩

/-- The deadline that blocks an attempt is the first one that there is time left to. -/
theorem timeLeft_of_blocks {s : Ledger.State} {d : Instant} (h : Blocks s p d) :
    Ledger.timeLeft s.clock (s.deadline? p) = d.toNat - s.clock.toNat ∧ d.toNat - s.clock.toNat ≠ 0 := by
  have hlt := UInt64.lt_iff_toNat_lt.mp h.later
  rw [h.recorded]
  refine ⟨rfl, ?_⟩
  omega

theorem timeLeft_eq_zero_iff {s : Ledger.State} :
    Ledger.timeLeft s.clock (s.deadline? p) = 0 ↔ Free s p := by
  unfold Free
  cases hd : s.deadline? p with
  | none => simp [Ledger.timeLeft]
  | some d =>
    constructor
    · rintro hzero _ ⟨⟩
      have hle : d.toNat - s.clock.toNat = 0 := hzero
      rw [UInt64.le_iff_toNat_le]
      omega
    · intro hle
      have hle := UInt64.le_iff_toNat_le.mp (hle d rfl)
      change d.toNat - s.clock.toNat = 0
      omega

private theorem exists_blocks {s : Ledger.State} (hleft : Ledger.timeLeft s.clock (s.deadline? p) ≠ 0)
    (hfirst : p = .scheduler ∨ p = .tokenServer ∧ Ledger.timeLeft s.clock (s.deadline? .scheduler) = 0) :
    ∃ d, Blocks s p d := by
  cases hd : s.deadline? p with
  | none =>
    rw [hd] at hleft
    exact (hleft rfl).elim
  | some d =>
    refine ⟨d, hd, ?_, hfirst.imp_right fun ⟨hp, hzero⟩ => ⟨hp, timeLeft_eq_zero_iff.mp hzero⟩⟩
    rw [hd] at hleft
    have hne : d.toNat - s.clock.toNat ≠ 0 := hleft
    rw [UInt64.lt_iff_toNat_lt]
    omega

/-- Of two purposes that block an attempt, both come first. -/
theorem Blocks.unique {s : Ledger.State} {q : Ledger.Purpose} {d d' : Instant} (h : Blocks s p d) (h' : Blocks s q d') :
    q = p := by
  -- A deadline of the scheduler that is later rules out that it has come.
  have hlater : ∀ {e : Instant}, s.deadline? .scheduler = some e → s.clock < e → ¬ Free s .scheduler := by
    intro e he hlt hfree
    exact UInt64.not_le.mpr hlt (hfree e he)
  rcases h.first with rfl | ⟨rfl, hopen⟩ <;> rcases h'.first with rfl | ⟨rfl, hopen'⟩
  · rfl
  · exact (hlater h.recorded h.later hopen').elim
  · exact (hlater h'.recorded h'.later hopen).elim
  · rfl

/-- The ways of an attempt that is not forced: a text cannot be read, a deadline keeps it waiting, or it goes on. -/
inductive Held (others : Others σ) (c : Client) (w : World σ) : Moments (World σ) → SyncOutcome → World σ → Prop
  | fails {ms : Moments (World σ)} (e : SyncError) : Unmoved w (exchangesOf ms) w →
      storeFaults (exchangesOf ms) = [e] → Held others c w ms (recoverable e) w
  | waits {ms : Moments (World σ)} {p : Ledger.Purpose} : Unmoved w (exchangesOf ms) w →
      storeFaults (exchangesOf ms) = [] → Ledger.timeLeft w.ledger.clock (w.ledger.deadline? p) ≠ 0 →
      (p = .scheduler ∨ p = .tokenServer ∧ Ledger.timeLeft w.ledger.clock (w.ledger.deadline? .scheduler) = 0) →
      Held others c w ms (.postponed (Ledger.timeLeft w.ledger.clock (w.ledger.deadline? p))) w
  | proceeds {gates rest : Moments (World σ)} {r : SyncOutcome} {w' : World σ} : Unmoved w (exchangesOf gates) w →
      storeFaults (exchangesOf gates) = [] → Ledger.timeLeft w.ledger.clock (w.ledger.deadline? .scheduler) = 0 →
      Ledger.timeLeft w.ledger.clock (w.ledger.deadline? .tokenServer) = 0 →
      Runs (World.Falters others) w (proceed c false) rest r w' → Held others c w (gates ++ rest) r w'

private theorem held_of_runs {c : Client} {r : SyncOutcome}
    (h : Runs (World.Falters others) w (run c ⟨false⟩) ms r w') :
    Held others c w ms r w' := by
  cases attempting_of_runs h with
  | early hfirst =>
    obtain ⟨hunmoved, hgating⟩ := gating_of_runs hfirst
    obtain rfl := hunmoved.same
    cases hgating with
    | waits hquiet hleft => exact .waits hunmoved hquiet hleft (.inl rfl)
    | fails e hfault => exact .fails e hunmoved hfault
  | @deferred v _ xs ys _ hfirst hsecond =>
    obtain ⟨hunmoved, hgating⟩ := gating_of_runs hfirst
    obtain rfl := hunmoved.same
    obtain ⟨hunmoved', hgating'⟩ := gating_of_runs hsecond
    obtain rfl := hunmoved'.same
    have hboth := hunmoved.append hunmoved'
    rw [← exchangesOf_append] at hboth
    cases hgating with
    | passes hquiet hopen =>
      have hfaults : storeFaults (exchangesOf (xs ++ ys)) = storeFaults (exchangesOf ys) := by
        rw [exchangesOf_append, storeFaults_append, hquiet]
        rfl
      cases hgating' with
      | waits hquiet' hleft => exact .waits hboth (hfaults.trans hquiet') hleft (.inr ⟨rfl, hopen⟩)
      | fails e hfault => exact .fails e hboth (hfaults.trans hfault)
  | @proceeds v u _ xs ys zs _ hfirst hsecond hproceed =>
    obtain ⟨hunmoved, hgating⟩ := gating_of_runs hfirst
    obtain rfl := hunmoved.same
    obtain ⟨hunmoved', hgating'⟩ := gating_of_runs hsecond
    obtain rfl := hunmoved'.same
    have hboth := hunmoved.append hunmoved'
    cases hgating with
    | passes hquiet hopen =>
      cases hgating' with
      | passes hquiet' hopen' =>
        rw [← List.append_assoc]
        refine .proceeds ?_ ?_ hopen hopen' hproceed
        · rw [exchangesOf_append]
          exact hboth
        · rw [exchangesOf_append, storeFaults_append, hquiet, hquiet']
          rfl

end Gate

section Forced

variable {σ : Type} {move : σ → Exchange Question.Answer → σ → Prop} {c : Client} {initial : Account} {m : Married}
  {token : TokenServer.Token} {s s' : σ} {ms : Moments σ} {r : SyncOutcome} {p : Ledger.Purpose} {xs ys : Exchanges}

/-- There was an answer to an exchange that asked for a delay, but brought no token. -/
def Delayed (xs : Exchanges) (d : Nat) : Prop :=
  ∃ assertion tag response e, ⟨.party (.exchange assertion tag), .ok response⟩ ∈ xs ∧ response.result = .error e ∧
    e.isInvalidAuthentication = false ∧ requested response.backoff = d ∧ d ≠ 0

/-- The last that was done is a call of the ledger's store, which failed. -/
def Faulted (xs : Exchanges) (e : SyncError) : Prop := ∃ before x, xs = before ++ [x] ∧ fault? x = some e

/-- No deadline is in the way of an attempt: it waits only if the token server did not answer with a token but asked
for a delay, and with a token that tells an endpoint it starts the engine, unless the store fails first. -/
structure Unhindered (xs : Exchanges) (r : SyncOutcome) : Prop where
  postponed : ∀ d, r = .postponed d → Delayed xs d
  started : ∀ token ∈ grants xs, ∀ endpoint, Url.parse token.endpoint = .ok endpoint →
    starts xs ≠ [] ∨ ∃ e, Faulted xs e ∧ r = .recoverable e.message

private theorem unhindered_of_ungranted (h : grants xs = []) (hr : ∀ d, r ≠ .postponed d) : Unhindered xs r := by
  refine ⟨fun d hd => (hr d hd).elim, ?_⟩
  rw [h]
  exact nofun

private theorem Faulted.prepend {e : SyncError} (h : Faulted ys e) (xs : Exchanges) : Faulted (xs ++ ys) e := by
  obtain ⟨before, x, rfl, hfault⟩ := h
  exact ⟨xs ++ before, x, (List.append_assoc _ _ _).symm, hfault⟩

private theorem Delayed.mono {d : Nat} (h : Delayed xs d) (hsub : xs ⊆ ys) : Delayed ys d := by
  obtain ⟨assertion, tag, response, e, hx, hrest⟩ := h
  exact ⟨assertion, tag, response, e, hsub hx, hrest⟩

private theorem Unhindered.prepend (h : Unhindered ys r) (hx : grants xs = []) : Unhindered (xs ++ ys) r := by
  refine ⟨fun d hd => (h.postponed d hd).mono (List.subset_append_right _ _), ?_⟩
  intro token ht endpoint hparse
  rw [grants_append, hx] at ht
  rcases h.started token ht endpoint hparse with hstarts | ⟨e, hfaulted, hr⟩
  · refine .inl ?_
    rw [starts_append]
    exact List.append_ne_nil_of_right_ne_nil _ hstarts
  · exact .inr ⟨e, hfaulted.prepend xs, hr⟩

theorem faulted_of_switchHost {host : String} {e : SyncError}
    (h : Runs move s (books (Ledger.switchHost host)) ms (.error e) s') : Faulted (exchangesOf ms) e := by
  have hbooks : ∃ ns, ms = ns.map ofLedger ∧
      Runs (fun s x t => move s ⟨.ledger x.question, x.answer⟩ t) s (Ledger.switchHost host) ns (.error e) s' :=
    ledger_of_runs (fun _ _ _ _ hm => hm) h
  obtain ⟨ns, rfl, hns⟩ := hbooks
  -- Where the host is written, a failure to do so is the last word.
  have hwritten : ∀ {t u : σ} {xs : List (Moment Ledger.Question.Answer σ)},
      Runs (fun s x t => move s ⟨.ledger x.question, x.answer⟩ t) t
        (do let set ← Ledger.setLastHost host; pure (set.map fun _ => true)) xs (.error e) u →
      Faulted (exchangesOf (xs.map ofLedger)) e := by
    intro t u xs hwrite
    obtain ⟨ys, set, v, zs, hset, hpure, rfl⟩ := runs_bind_iff.mp hwrite
    obtain ⟨rfl, _⟩ := runs_question_iff.mp hset
    obtain ⟨rfl, he, _⟩ := runs_pure_iff.mp hpure
    cases set with
    | ok => cases he
    | error e' =>
      cases he
      exact ⟨[], _, rfl, rfl⟩
  obtain ⟨xs, last, t, rest, hlast, hrest, rfl⟩ := runs_bind_iff.mp hns
  obtain ⟨rfl, _⟩ := runs_question_iff.mp hlast
  rw [List.map_append, exchangesOf_append]
  cases last with
  | error e' =>
    obtain ⟨rfl, he, _⟩ := runs_pure_iff.mp hrest
    cases he
    exact ⟨[], _, rfl, rfl⟩
  | ok last =>
    cases last with
    | none => exact (hwritten hrest).prepend _
    | some previous =>
      dsimp only at hrest
      split at hrest
      · obtain ⟨_, he, _⟩ := runs_pure_iff.mp hrest
        cases he
      · obtain ⟨ys, cleared, u, zs, hclear, hset, rfl⟩ := runs_bind_iff.mp hrest
        obtain ⟨rfl, _⟩ := runs_question_iff.mp hclear
        cases cleared with
        | error e' =>
          obtain ⟨rfl, he, _⟩ := runs_pure_iff.mp hset
          cases he
          exact ⟨_, _, rfl, rfl⟩
        | ok =>
          rw [List.map_append, exchangesOf_append]
          exact ((hwritten hset).prepend _).prepend _

private theorem Ending.not_postponed {a : Story} (h : Ending c r a) (hplans : a.plans ≠ []) (d : Nat) :
    r ≠ .postponed d := by
  rintro rfl
  cases h with
  | retried _ => exact hplans rfl
  | granted _ => exact hplans rfl

private theorem unhindered_of_syncStorage (h : Runs move s (syncStorage c m token true) ms r s') :
    (∀ d, r ≠ .postponed d) ∧ ∀ endpoint, Url.parse token.endpoint = .ok endpoint →
      starts (exchangesOf ms) ≠ [] ∨ ∃ e, Faulted (exchangesOf ms) e ∧ r = .recoverable e.message := by
  cases handing_of_runs h with
  | unreadable hparse =>
    refine ⟨nofun, fun endpoint hp => ?_⟩
    cases hparse.symm.trans hp
  | unswitched _ hswitch => exact ⟨nofun, fun _ _ => .inr ⟨_, faulted_of_switchHost hswitch, rfl⟩⟩
  | gated _ _ hgate =>
    obtain ⟨_, hpassed, _⟩ := runs_pure_iff.mp hgate
    cases hpassed
  | started _ _ _ _ _ _ _ =>
    refine ⟨(ending_of_syncStorage h).not_postponed ?_, fun _ _ => .inl ?_⟩
    · intro hnil
      have hnil := (List.append_eq_nil_iff.mp hnil).2
      simp [story, plans, plan?] at hnil
    · intro hnil
      simp [starts, start?] at hnil

private theorem delayed_of_fetchToken {d : Nat}
    (h : Runs move s (fetchToken c m) ms (.error (.outcome (.postponed d))) s') :
    Delayed (exchangesOf ms) d := by
  generalize ha : (Except.error (TokenFailure.outcome (.postponed d)) : Except TokenFailure TokenServer.Token) = a at h
  cases exchanging_of_runs h with
  | unmade _ _ => cases ha
  | unanswered _ _ _ _ => cases ha
  | @answered _ _ v _ xs ys zs _ assertion response _ _ _ _ _ hsettle =>
    have hmap := result_of_settle hsettle
    rw [← ha] at hmap
    cases hr : response.result with
    | ok token =>
      rw [hr] at hmap
      cases hmap
    | error e =>
      rw [hr] at hmap
      injection hmap with hfailure
      obtain ⟨hvalid, houtcome⟩ := failed_of_tokenFailure hfailure.symm
      have hx : (⟨.party (.exchange assertion m.clientState), .ok response⟩ : Exchange Question.Answer) ∈
          exchangesOf (xs ++ (ys ++ ⟨⟨.party (.exchange assertion m.clientState), .ok response⟩, v⟩ :: zs)) :=
        List.mem_map_of_mem (List.mem_append_right _ (List.mem_append_right _ List.mem_cons_self))
      refine ⟨assertion, m.clientState, response, e, hx, hr, hvalid, ?_⟩
      by_cases hzero : requested response.backoff = 0
      · rw [if_pos hzero] at houtcome
        cases houtcome
      · rw [if_neg hzero] at houtcome
        cases houtcome
        exact ⟨rfl, hzero⟩

private theorem unhindered_of_syncMarried (h : Runs move s (syncMarried c initial m true) ms r s') :
    Unhindered (exchangesOf ms) r := by
  cases trading_of_runs h with
  | @accepted _ _ _ _ xs ys zs us token _ hfetch hpersist hclear hstorage =>
    obtain ⟨hwaits, hstarts⟩ := unhindered_of_syncStorage hstorage
    have hgrants : grants (exchangesOf us) = [] :=
      grants_of_within (within_of_runs hstorage (asks_syncStorage c m token true)) (by decide)
    have hsaved := grants_of_within (within_of_runs hpersist (asks_persist _ _)) (by decide)
    have hcleared := grants_of_within (within_of_runs hclear (asks_notice _)) (by decide)
    have htoken : grants (exchangesOf xs) = [token] := grants_of_fetchToken hfetch
    refine ⟨fun d hd => (hwaits d hd).elim, ?_⟩
    simp only [exchangesOf_append, grants_append, htoken, hsaved, hcleared, hgrants, List.append_nil,
      List.mem_singleton]
    rintro _ rfl endpoint hparse
    simp only [← List.append_assoc]
    rcases hstarts endpoint hparse with hstarts | ⟨e, hfaulted, hr⟩
    · refine .inl ?_
      rw [starts_append]
      exact List.append_ne_nil_of_right_ne_nil _ hstarts
    · exact .inr ⟨e, hfaulted.prepend _, hr⟩
  | rejected hfetch hpersist hnotice =>
    have hfetched := grants_of_fetchToken hfetch
    have hsaved := grants_of_within (within_of_runs hpersist (asks_persist _ _)) (by decide)
    have htold := grants_of_within (within_of_runs hnotice (asks_notice _)) (by decide)
    refine unhindered_of_ungranted ?_ nofun
    rw [exchangesOf_append, exchangesOf_append, grants_append, grants_append, hfetched, hsaved, htold]
    rfl
  | failed hfetch hpersist =>
    have hfetched := grants_of_fetchToken hfetch
    have hsaved := grants_of_within (within_of_runs hpersist (asks_persist _ _)) (by decide)
    rw [exchangesOf_append]
    refine ⟨?_, ?_⟩
    · rintro d rfl
      exact (delayed_of_fetchToken hfetch).mono (List.subset_append_left _ _)
    · rw [grants_append, hfetched, hsaved]
      exact nofun

private theorem unhindered_of_syncAccount (h : Runs move s (syncAccount c initial true) ms r s') :
    Unhindered (exchangesOf ms) r := by
  cases syncing_of_runs h with
  | married hlogin _ hmarried =>
    rw [exchangesOf_append]
    exact (unhindered_of_syncMarried hmarried).prepend
      (grants_of_within (within_of_runs hlogin asks_login) (by decide))
  | short hlogin _ hinterval hpersist hnot =>
    have hlogged := grants_of_within (within_of_runs hlogin asks_login) (by decide)
    have hasked := grants_of_within (within_of_runs hinterval (asks_requestInterval _)) (by decide)
    have hsaved := grants_of_within (within_of_runs hpersist (asks_persist _ _)) (by decide)
    have htold := grants_of_within (within_of_runs hnot (asks_notMarried _)) (by decide)
    refine unhindered_of_ungranted ?_ ?_
    · simp only [exchangesOf_append, grants_append, hlogged, hasked, hsaved, htold, List.append_nil]
    · rintro d rfl
      unfold notMarried at hnot
      dsimp only at hnot
      split at hnot
      · obtain ⟨_, he, _⟩ := runs_pure_iff.mp hnot
        cases he
      · obtain ⟨_, _, _, _, _, hpure, _⟩ := runs_bind_iff.mp hnot
        obtain ⟨_, he, _⟩ := runs_pure_iff.mp hpure
        cases he

/-- An attempt that is forced gets to the stored account, and no deadline is in its way from there. -/
theorem unhindered_of_run (h : Runs move s (run c ⟨true⟩) ms r s') :
    (∃ a, ⟨.account .load, a⟩ ∈ exchangesOf ms) ∧ Unhindered (exchangesOf ms) r := by
  cases attempting_of_runs h with
  | early hgate =>
    obtain ⟨_, hpassed, _⟩ := runs_pure_iff.mp hgate
    cases hpassed
  | deferred _ hgate =>
    obtain ⟨_, hpassed, _⟩ := runs_pure_iff.mp hgate
    cases hpassed
  | proceeds hfirst hsecond hproceed =>
    obtain ⟨rfl, _, _⟩ := runs_pure_iff.mp hfirst
    obtain ⟨rfl, _, _⟩ := runs_pure_iff.mp hsecond
    rw [List.nil_append, List.nil_append]
    cases proceeding_of_runs hproceed with
    | failed hkept _ =>
      have hlimited := grants_of_within (within_of_runs hkept (asks_books _)) (by decide)
      rw [exchangesOf_append]
      refine ⟨⟨_, List.mem_append_right _ List.mem_cons_self⟩, unhindered_of_ungranted ?_ nofun⟩
      rw [grants_append, hlimited]
      rfl
    | missing hkept _ =>
      have hlimited := grants_of_within (within_of_runs hkept (asks_books _)) (by decide)
      rw [exchangesOf_append]
      refine ⟨⟨_, List.mem_append_right _ List.mem_cons_self⟩, unhindered_of_ungranted ?_ nofun⟩
      rw [grants_append, hlimited]
      rfl
    | loaded hkept _ hsync =>
      have hlimited := grants_of_within (within_of_runs hkept (asks_books _)) (by decide)
      rw [exchangesOf_append, exchangesOf_cons, List.append_cons]
      refine ⟨⟨_, List.mem_append_left _ (List.mem_append_right _ (List.mem_singleton_self _))⟩, ?_⟩
      refine (unhindered_of_syncAccount hsync).prepend ?_
      rw [grants_append, hlimited]
      rfl

end Forced

/-- A deadline of the scheduler or the token server that has not come keeps an attempt waiting that is not forced, by
what is left of it, and the scheduler's comes first; where the store fails the attempt is recoverable. Either way
nothing changes, and nobody but the ledger is asked for anything. Only without such a deadline does the attempt
proceed. One that is forced always does, whatever is answered: the one delay that it comes back with is one that the
token server asks for instead of a token. -/
theorem waits_for_deadlines (c : Client) :
    (∀ {σ : Type} (others : Others σ) {w w' : World σ} {ms : Moments (World σ)} {r : SyncOutcome},
      Runs (World.Falters others) w (run c ⟨false⟩) ms r w' →
      (∀ p d, Blocks w.ledger p d → Unmoved w (exchangesOf ms) w' ∧
        match storeFaults (exchangesOf ms) with
        | [] => r = .postponed (d.toNat - w.ledger.clock.toNat) ∧ d.toNat - w.ledger.clock.toNat ≠ 0
        | e :: _ => r = .recoverable e.message) ∧
      ((∀ p d, ¬ Blocks w.ledger p d) →
        (Unmoved w (exchangesOf ms) w' ∧ ∃ e, storeFaults (exchangesOf ms) = [e] ∧ r = .recoverable e.message) ∨
        ∃ gates rest, ms = gates ++ rest ∧ Unmoved w (exchangesOf gates) w ∧ storeFaults (exchangesOf gates) = [] ∧
          Runs (World.Falters others) w (proceed c false) rest r w')) ∧
    ∀ {xs : Exchanges} {r : SyncOutcome}, Course (run c ⟨true⟩) xs r →
      (∃ a, ⟨.account .load, a⟩ ∈ xs) ∧ Unhindered xs r := by
  refine ⟨?_, ?_⟩
  · intro σ others w w' ms r h
    have hheld := held_of_runs h
    constructor
    · intro p d hblocks
      obtain ⟨hleft, hne⟩ := timeLeft_of_blocks hblocks
      cases hheld with
      | fails e hunmoved hfault =>
        rw [hfault]
        exact ⟨hunmoved, rfl⟩
      | @waits _ q hunmoved hquiet hwaits hfirst =>
        obtain ⟨d', hblocks'⟩ := exists_blocks hwaits hfirst
        obtain rfl := hblocks.unique hblocks'
        rw [hquiet, hleft]
        exact ⟨hunmoved, rfl, hne⟩
      | proceeds _ _ hscheduler htoken _ =>
        rcases hblocks.first with rfl | ⟨rfl, _⟩
        · exact (hne (hleft.symm.trans hscheduler)).elim
        · exact (hne (hleft.symm.trans htoken)).elim
    · intro hfree
      cases hheld with
      | fails e hunmoved hfault => exact .inl ⟨hunmoved, e, hfault, rfl⟩
      | waits _ _ hwaits hfirst =>
        obtain ⟨d, hblocks⟩ := exists_blocks hwaits hfirst
        exact (hfree _ d hblocks).elim
      | proceeds hunmoved hquiet _ _ hproceed => exact .inr ⟨_, _, rfl, hunmoved, hquiet, hproceed⟩
  · intro xs r h
    obtain ⟨ms, rfl, hr⟩ := runs_of_course h
    exact unhindered_of_run hr

/-- A deadline of the scheduler that cannot be made out, one of the token server that has not come, and a married
account. -/
def deferred : World Unit where
  ledger := ⟨1000, ⟨[(Ledger.deadlineKey .scheduler, "soon"), (Ledger.deadlineKey .tokenServer, "5000")], []⟩, []⟩
  accounts := elsewhere.accounts
  others := ()

theorem waits_for_deadlines_deferred :
    (∃ ms w', Runs (World.Falters granting) deferred (run ⟨{}, "a", "t"⟩ ⟨false⟩) ms (.postponed 4000) w' ∧
      Unmoved deferred (exchangesOf ms) w') ∧
    ∃ xs r, Course (run ⟨{}, "a", "t"⟩ ⟨true⟩) xs r ∧ grants xs ≠ [] ∧ Unhindered xs r := by
  obtain ⟨hunforced, hforced⟩ := waits_for_deadlines ⟨{}, "a", "t"⟩
  constructor
  · have hr : Runs (World.Falters granting) deferred (run ⟨{}, "a", "t"⟩ ⟨false⟩) _ _ _ :=
      runs_record (fun q w => .answers q) _ _
    have hblocks : Blocks deferred.ledger .tokenServer 5000 := by
      refine ⟨by decide, by decide, .inr ⟨rfl, fun d => ?_⟩⟩
      have hnone : deferred.ledger.deadline? .scheduler = none := by decide
      rw [hnone]
      exact nofun
    obtain ⟨hunmoved, hwaits⟩ := (hunforced granting hr).1 _ _ hblocks
    have hquiet :
        storeFaults (exchangesOf ((run ⟨{}, "a", "t"⟩ ⟨false⟩).record (World.answer granting) deferred)) = [] := by
      decide +kernel
    rw [hquiet] at hwaits
    rw [hwaits.1] at hr
    exact ⟨_, _, hr, hunmoved⟩
  · have hcourse := course_run (World.answer granting) (run ⟨{}, "a", "t"⟩ ⟨true⟩) deferred
    exact ⟨_, _, hcourse, by decide +kernel, (hforced hcourse).2⟩

end AccountSync.Attempt
