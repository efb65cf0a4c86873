import AccountSync.Proofs.Attempt.Delays

/-!
The time between attempts. Main statement: `attempts_spaced`, that an attempt that is not forced comes past its
deadlines only once the rate limit since each earlier attempt and all delays that servers asked for in
earlier attempts are over.
-/

set_option autoImplicit false
set_option relaxedAutoImplicit false

namespace AccountSync.Attempt

open Dialogue

/-- When an attempt last read the clock before it turned to others than the ledger. -/
def passedAt (ms : Moments Ledger.State) : Option Instant :=
  lastReading (exchangesOf (ms.takeWhile fun m => m.exchange.question.part = .ledger))

variable {s s' : Ledger.State} {ms ns : Moments Ledger.State} {c : Client} {forced : Bool} {r : SyncOutcome}

private theorem gate_reaches {purpose : Ledger.Purpose} (h : Runs Elapses s (gate purpose false) ms none s') :
    ∃ now, begun ms = some now ∧ s.earliest purpose ≤ now := by
  obtain ⟨xs, free, t, ys, hbooks, hrest, rfl⟩ := runs_bind_iff.mp h
  obtain ⟨ns, rfl, hns⟩ := runs_books hbooks
  cases free with
  | error e =>
    obtain ⟨_, hr, _⟩ := runs_pure_iff.mp hrest
    cases hr
  | ok free =>
    cases free with
    | true =>
      obtain ⟨u, rest, rfl, hle⟩ := Ledger.free_of_mayProceed hns
      exact ⟨u.clock, rfl, hle⟩
    | false =>
      obtain ⟨us, left, u, vs, _, hpure, rfl⟩ := runs_bind_iff.mp hrest
      cases left with
      | error e =>
        obtain ⟨_, hr, _⟩ := runs_pure_iff.mp hpure
        cases hr
      | ok left =>
        obtain ⟨_, hr, _⟩ := runs_pure_iff.mp hpure
        cases hr

private theorem begun_append {now : Instant} (h : begun ms = some now) : begun (ms ++ ns) = some now := by
  cases ms with
  | nil => cases h
  | cons m ms => exact h

/-- An attempt that is not forced comes past its deadlines only if the scheduler's has come when it begins. -/
theorem begun_of_run {extras : SyncExtras} (hforced : extras.forced = false)
    (h : Runs Elapses s (run c extras) ms r s') (hp : Passed ms) :
    ∃ now, begun ms = some now ∧ s.earliest .scheduler ≤ now := by
  obtain ⟨xs, t, ys, u, zs, hfirst, _, _, rfl⟩ := proceeds_of_passed h hp
  rw [hforced] at hfirst
  obtain ⟨now, hbegun, hle⟩ := gate_reaches hfirst
  exact ⟨now, begun_append hbegun, hle⟩

private theorem takeWhile_of_confined {m : Moment Question.Answer Ledger.State} (h : Confined [.ledger] ms)
    (hm : m.exchange.question.part ≠ .ledger) (ns : Moments Ledger.State) :
    (ms ++ m :: ns).takeWhile (fun n => n.exchange.question.part = .ledger) = ms := by
  have hall : ∀ n ∈ ms, decide (n.exchange.question.part = .ledger) = true := by
    intro n hn
    exact decide_eq_true (List.mem_singleton.mp (h n hn))
  rw [List.takeWhile_append_of_pos hall, List.takeWhile_cons_of_neg (by simp [hm]), List.append_nil]

private theorem lastReading_of_extend {purpose : Ledger.Purpose} {delay : Nat} {kept : Except SyncError Instant}
    (hw : s.Working) (h : Runs Elapses s (books (Ledger.extend purpose delay)) ms kept s') :
    ∃ now, lastReading (exchangesOf ms) = some now ∧ after now delay ≤ s'.earliest purpose := by
  obtain ⟨ns, rfl, hns⟩ := runs_books h
  obtain ⟨t, rest, rfl, _, hrest, hreach⟩ := (Ledger.extending_of_runs hns).reaches hw
  refine ⟨t.clock, ?_, hreach⟩
  have hnone : (exchangesOf (rest.map ofLedger)).filterMap reading? = [] := by
    refine List.filterMap_eq_nil_iff.mpr ?_
    intro y hy
    obtain ⟨_, hmoment, rfl⟩ := List.mem_map.mp hy
    obtain ⟨⟨⟨q, a⟩, u⟩, hn, rfl⟩ := List.mem_map.mp hmoment
    cases q with
    | now => exact (hrest _ hn rfl).elim
    | store call => rfl
    | skew host => rfl
    | recordSkew host seconds => rfl
  change (t.clock :: (exchangesOf (rest.map ofLedger)).filterMap reading?).getLast? = _
  rw [hnone]
  rfl

/-- Past its deadlines, an attempt puts off the next one before it asks anybody. -/
theorem proceed_reaches (hw : s.Working) (h : Runs Elapses s (proceed c forced) ms r s') :
    ∃ ks m rest now, ms = ks ++ m :: rest ∧ Confined [.ledger] ks ∧ m.exchange.question.part ≠ .ledger ∧
      lastReading (exchangesOf ks) = some now ∧
      after now (seconds c.config.schedulerRateLimit.toNat) ≤ s'.earliest .scheduler := by
  obtain ⟨ks, kept, t, rest, hkept, hrest, rfl⟩ := runs_bind_iff.mp h
  obtain ⟨now, hnow, hreach⟩ := lastReading_of_extend hw hkept
  have ht := (pays_books (Ledger.advances_extend _ _) _ _ _ _ hw hkept).1.working hw
  obtain ⟨ls, loaded, u, zs, hload, hsync, rfl⟩ := runs_bind_iff.mp hrest
  obtain ⟨rfl, hmove⟩ := runs_question_iff.mp hload
  have hother : (Question.account .load).part ≠ .ledger := by decide
  have htu : Ledger.Forward t u := hmove.forward hother
  have hus : Ledger.Forward u s' := by
    cases loaded with
    | error e => exact (pays_pure _ _ _ _ _ (htu.working ht) hsync).1
    | ok found =>
      cases found with
      | none => exact (pays_pure _ _ _ _ _ (htu.working ht) hsync).1
      | some initial => exact (pays_syncAccount c initial forced _ _ _ _ (htu.working ht) hsync).1
  have hle := (htu.trans hus).earliest .scheduler Ledger.lasting_scheduler
  exact ⟨ks, _, zs, now, rfl, confined_of_runs (asks_books _) hkept, hother, hnow,
    UInt64.le_trans hreach hle⟩

private theorem passedAt_of_run {extras : SyncExtras} (hw : s.Working) (h : Runs Elapses s (run c extras) ms r s')
    (hp : Passed ms) : ∃ now, passedAt ms = some now ∧
      after now (seconds c.config.schedulerRateLimit.toNat) ≤ s'.earliest .scheduler := by
  obtain ⟨xs, t, ys, u, zs, hfirst, hsecond, hproceed, rfl⟩ := proceeds_of_passed h hp
  have ht := (pays_gate _ _ _ _ _ _ hw hfirst).1.working hw
  have hu := (pays_gate _ _ _ _ _ _ ht hsecond).1.working ht
  obtain ⟨ks, m, rest, now, rfl, hks, hm, hnow, hreach⟩ := proceed_reaches hu hproceed
  refine ⟨now, ?_, hreach⟩
  have hgates := confined_append.mpr
    ⟨confined_of_runs (asks_gate _ _) hfirst, confined_of_runs (asks_gate _ _) hsecond⟩
  have hledger := confined_append.mpr ⟨hgates, hks⟩
  have hshape : xs ++ (ys ++ (ks ++ m :: rest)) = ((xs ++ ys) ++ ks) ++ m :: rest := by
    simp only [List.append_assoc]
  unfold passedAt
  rw [hshape, takeWhile_of_confined hledger hm, exchangesOf_append]
  exact getLast?_filterMap_append _ hnow

/-- In any history of attempts over a store that works, an attempt that is not forced and comes past its
deadlines begins no earlier than the rate limit after any earlier attempt that came past its own, nor before
the end of any delay that the token server asked for or the engine reported in an earlier attempt. -/
theorem attempts_spaced (c : Client) {s s' : Ledger.State} {made : List (Made Ledger.State)} (hw : s.Working)
    (h : History Elapses c s made s') :
    made.Pairwise fun earlier later => later.extras.forced = false → Passed later.moments →
      ∃ now, begun later.moments = some now ∧
        (Passed earlier.moments → ∃ past, passedAt earlier.moments = some past ∧
          after past (seconds c.config.schedulerRateLimit.toNat) ≤ now) ∧
        (∀ x ∈ tokenDelays earlier.moments, after x.1 x.2 ≤ now) ∧
        (∀ x ∈ engineDelays none earlier.moments, after x.1 x.2 ≤ now) := by
  -- What an attempt leaves behind is a deadline of the scheduler, and these are never taken back.
  let left (m : Made Ledger.State) (t : Ledger.State) : Prop := Covers t m.moments ∧
    (Passed m.moments → ∃ past, passedAt m.moments = some past ∧
      after past (seconds c.config.schedulerRateLimit.toNat) ≤ t.earliest .scheduler)
  refine h.pairwise (I := Ledger.State.Working) (D := left) ?_ hw
  intro s m t hs hr
  obtain ⟨hst, hcovers⟩ := pays_run c m.extras _ _ _ _ hs hr
  have hle := hst.earliest .scheduler Ledger.lasting_scheduler
  refine ⟨hst.working hs, ⟨hcovers, passedAt_of_run hs hr⟩, ?_⟩
  rintro e ⟨hcov, hrate⟩
  refine ⟨⟨hcov.forward hst, ?_⟩, ?_⟩
  · intro hp
    obtain ⟨past, hpast, hreach⟩ := hrate hp
    exact ⟨past, hpast, UInt64.le_trans hreach hle⟩
  · intro hforced hp
    obtain ⟨now, hbegun, hfree⟩ := begun_of_run hforced hr hp
    refine ⟨now, hbegun, ?_, ?_, ?_⟩
    · intro hpassed
      obtain ⟨past, hpast, hreach⟩ := hrate hpassed
      exact ⟨past, hpast, UInt64.le_trans hreach hfree⟩
    · intro x hx
      exact UInt64.le_trans (hcov.token x hx) hfree
    · intro x hx
      exact UInt64.le_trans (hcov.engine none x hx) hfree

/-- A ledger, a married account that takes half a minute to load, a token server that asks for a minute without
attempts, and an engine that is asked for twenty seconds, asks for 45 by itself and takes another hour. -/
def answerSlowed (q : Question) (s : Ledger.State) : q.Answer × Ledger.State :=
  match q with
  | .ledger q => s.answer q
  | .account .load =>
    (.ok (some (.married ⟨⟨"ada@example.org", "u", "s", .zero, .zero, default⟩, "x"⟩)), s.advance 30000)
  | .work duration => ((), s.advance duration)
  | .party (.provider (.signCertificate ..)) => (.ok "x", s)
  | .party (.exchange ..) =>
    (.ok ⟨200, { status := 200, backoff := some 60 }, none, none,
      .ok ⟨"i", "k", "7", "https://[2001:db8::7]/1.5/7", none⟩⟩, s)
  | .party (.startEngine _) =>
    (Storage.Plan.ofSteps [.observe 503 [.ofText "Retry-After" "20"], .requestBackoff 45000, .work 3600000]
      (.success 0), s)
  | q => (silence q, s)

private theorem elapses_answerSlowed (q : Question) (s : Ledger.State) :
    Elapses s ⟨q, (answerSlowed q s).1⟩ (answerSlowed q s).2 := by
  have hstill : ∃ now, s.clock ≤ now ∧ s = { s with clock := now } := ⟨s.clock, UInt64.le_refl _, rfl⟩
  cases q with
  | ledger q => exact ⟨s.clock, UInt64.le_refl _, rfl⟩
  | account call =>
    cases call with
    | load => exact ⟨_, Ledger.le_after _ _, rfl⟩
    | save new => exact hstill
  | notice event => exact hstill
  | work duration => exact ⟨_, Ledger.le_after _ _, rfl⟩
  | party q =>
    cases q with
    | provider r => cases r <;> exact hstill
    | exchange assertion tag => exact hstill
    | verify audience assertion => exact hstill
    | keyPair => exact hstill
    | interval interval => exact hstill
    | startEngine session => exact hstill
    | tell step answer => exact hstill

/-- A forced attempt, and one that follows as soon as it may. -/
def onceAndAgain : List (Made Ledger.State) :=
  attemptsIn answerSlowed ⟨{}, "a", "t"⟩ [⟨true⟩, ⟨false⟩] ⟨1000000, {}, []⟩

theorem attempts_spaced_onceAndAgain :
    (∃ s', History Elapses ⟨{}, "a", "t"⟩ ⟨1000000, {}, []⟩ onceAndAgain s') ∧
    (∀ m ∈ onceAndAgain, Passed m.moments ∧ (tokenDelays m.moments).map Prod.snd = [60000] ∧
      (engineDelays none m.moments).map Prod.snd = [20000, 45000]) ∧
    onceAndAgain.Pairwise fun earlier later => ∃ now past, begun later.moments = some now ∧
      passedAt earlier.moments = some past ∧ after past 30000 ≤ now ∧
      ∀ x ∈ tokenDelays earlier.moments ++ engineDelays none earlier.moments, after x.1 x.2 ≤ now := by
  have hh : History Elapses ⟨{}, "a", "t"⟩ ⟨1000000, {}, []⟩ onceAndAgain _ :=
    history_attemptsIn elapses_answerSlowed _ _ _
  have hp : ∀ m ∈ onceAndAgain, Passed m.moments ∧ (tokenDelays m.moments).map Prod.snd = [60000] ∧
      (engineDelays none m.moments).map Prod.snd = [20000, 45000] := by
    decide +kernel
  have hw : Ledger.State.Working ⟨1000000, {}, []⟩ := rfl
  have hspaced := attempts_spaced ⟨{}, "a", "t"⟩ hw hh
  refine ⟨⟨_, hh⟩, hp, ?_⟩
  have hfirst := (hp _ List.mem_cons_self).1
  have hsecond := (hp _ (List.mem_cons_of_mem _ List.mem_cons_self)).1
  obtain ⟨now, hbegun, hrate, htoken, hengine⟩ :=
    List.rel_of_pairwise_cons hspaced List.mem_cons_self rfl hsecond
  obtain ⟨past, hpast, hle⟩ := hrate hfirst
  exact List.pairwise_pair.mpr ⟨now, past, hbegun, hpast, hle, List.forall_mem_append.mpr ⟨htoken, hengine⟩⟩

end AccountSync.Attempt
