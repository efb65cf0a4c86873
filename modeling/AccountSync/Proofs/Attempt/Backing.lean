import AccountSync.Proofs.Attempt.History
import AccountSync.Proofs.Login.Certificate

/-!
What the assertions that an attempt trades are backed by. Main statement: `traded_assertions_backed`, that the
certificate was good when login last looked at the clock, but for the runs that are stopped by their bound
right after they had a certificate signed.
-/

set_option autoImplicit false
set_option relaxedAutoImplicit false

namespace AccountSync.Attempt

open Dialogue

/-- A login run brings the loaded account to a married state, and then an assertion of that state is traded.
The clock was last read in login at the instant. -/
inductive Trades (c : Client) (initial : Account) (m : Married) (now : Instant) (assertion : String) :
    Exchanges → Prop
  | intro {before during later : Exchanges} {run : Login.Run} {issuedAt : Instant}
      {answer : Except SyncError TokenServer.Response} :
      Course (login (bring c initial)) during run → run.state = .married m →
      lastReading during = some now →
      m.generateAssertion c.audience issuedAt (seconds c.config.assertionDuration.toNat) = .ok assertion →
      ⟨.party (.exchange assertion m.clientState), answer⟩ ∈ later →
      Trades c initial m now assertion
        (before ++ ⟨.account .load, .ok (some initial)⟩ :: (during ++ later))

theorem course_ofLogin_now {xs : Exchanges} {now : Instant} (h : Course (ofLogin .now) xs now) :
    xs = [⟨.ledger .now, now⟩] :=
  course_question_iff.mp h

/-- The clock is read in login when the run looks at it. -/
theorem readings_of_translated {xs : Login.Exchanges} {ys : Exchanges} (h : Translated ofLogin xs ys) :
    ys.filterMap reading? = xs.filterMap Login.look? := by
  induction h with
  | nil => rfl
  | @cons q a part xs ys hq _ ih =>
    rw [List.filterMap_append, ih]
    cases q with
    | now =>
      obtain rfl := course_ofLogin_now hq
      rfl
    | ask r =>
      obtain rfl := course_question_iff.mp hq
      rfl
    | keyPair =>
      obtain ⟨_, pair, _, hpair, hpure, rfl⟩ := course_bind_iff.mp hq
      obtain rfl := course_question_iff.mp hpair
      obtain ⟨rfl, rfl⟩ := course_pure_iff.mp hpure
      rfl
    | report t state =>
      obtain ⟨rfl, _⟩ := course_pure_iff.mp hq
      rfl
    | final state =>
      obtain ⟨rfl, _⟩ := course_pure_iff.mp hq
      rfl

private theorem lastReading_of_translated {xs : Login.Exchanges} {ys : Exchanges} (h : Translated ofLogin xs ys) :
    lastReading ys = Login.lastLook xs :=
  congrArg List.getLast? (readings_of_translated h)

variable {c : Client} {initial : Account} {m : Married} {assertion tag : String} {now : Instant}

abbrev stepBound (c : Client) : Nat := max 1 c.config.maxLoginSteps.toNat

/-- Login that ends married by a certificate that is no good was stopped by its bound. -/
theorem valid_or_exposed {during : Exchanges} {run : Login.Run}
    (h : Course (login (bring c initial)) during run) (hm : run.state = .married m) :
    ∃ now, lastReading during = some now ∧
      (m.hasValidCertificate now = true ∨ Login.Exposed (stepBound c) initial) := by
  obtain ⟨xs, hc, ht⟩ := course_translate_iff.mp h
  obtain ⟨ys, hw, rfl⟩ := Login.course_advance_iff.mp hc
  obtain ⟨now, hl⟩ := hw.exists_lastLook
  refine ⟨now, ?_, ?_⟩
  · rw [lastReading_of_translated ht, Login.lastLook_final, hl]
  · cases hv : m.hasValidCertificate now with
    | true => exact .inl rfl
    | false => exact .inr (hw.stale ⟨m, now, hm, hl, hv⟩).2

variable {σ : Type} {move : σ → Exchange Question.Answer → σ → Prop} {s s' : σ} {ms : Moments σ} {forced : Bool}
  {r : SyncOutcome} {answer : Except SyncError TokenServer.Response}

private theorem not_traded {α : Type} {d : Talk α} {a : α} {parts : List Part} (h : Runs move s d ms a s')
    (hd : d.Asks (Within parts)) (hp : .token ∉ parts) :
    ⟨.party (.exchange assertion tag), answer⟩ ∉ exchangesOf ms := by
  intro hx
  obtain ⟨n, hn, he⟩ := List.mem_map.mp hx
  have hpart := confined_of_runs hd h n hn
  unfold Within at hpart
  rw [he] at hpart
  exact hp hpart

private theorem generated_of_fetchToken {a : Except TokenFailure TokenServer.Token}
    (h : Runs move s (fetchToken c m) ms a s') (hx : ⟨.party (.exchange assertion tag), answer⟩ ∈ exchangesOf ms) :
    tag = m.clientState ∧ ∃ issuedAt,
      m.generateAssertion c.audience issuedAt (seconds c.config.assertionDuration.toNat) = .ok assertion := by
  cases exchanging_of_runs h with
  | unmade hnow _ => exact (not_traded hnow (asks_books _) (by decide) hx).elim
  | unanswered hnow hgen hdiagnose _ =>
    simp only [exchangesOf_append, exchangesOf_cons, List.mem_append, List.mem_cons] at hx
    rcases hx with hx | hx | hx | hx
    · exact (not_traded hnow (asks_books _) (by decide) hx).elim
    · exact (not_traded hdiagnose (asks_diagnoseIf _ c _) (by decide) hx).elim
    · cases hx
      exact ⟨rfl, _, hgen⟩
    · cases hx
  | answered hnow hgen hdiagnose _ hsettle =>
    simp only [exchangesOf_append, exchangesOf_cons, List.mem_append, List.mem_cons] at hx
    rcases hx with hx | hx | hx | hx
    · exact (not_traded hnow (asks_books _) (by decide) hx).elim
    · exact (not_traded hdiagnose (asks_diagnoseIf _ c _) (by decide) hx).elim
    · cases hx
      exact ⟨rfl, _, hgen⟩
    · exact (not_traded hsettle (asks_settle c _ _) (by decide) hx).elim

private theorem generated_of_syncMarried (h : Runs move s (syncMarried c initial m forced) ms r s')
    (hx : ⟨.party (.exchange assertion tag), answer⟩ ∈ exchangesOf ms) :
    tag = m.clientState ∧ ∃ issuedAt,
      m.generateAssertion c.audience issuedAt (seconds c.config.assertionDuration.toNat) = .ok assertion := by
  cases trading_of_runs h with
  | accepted hfetch hpersist hclear hstorage =>
    simp only [exchangesOf_append, List.mem_append] at hx
    rcases hx with hx | hx | hx | hx
    · exact generated_of_fetchToken hfetch hx
    · exact (not_traded hpersist (asks_persist _ _) (by decide) hx).elim
    · exact (not_traded hclear (asks_notice _) (by decide) hx).elim
    · exact (not_traded hstorage (asks_syncStorage c m _ forced) (by decide) hx).elim
  | rejected hfetch hpersist hnotice =>
    simp only [exchangesOf_append, List.mem_append] at hx
    rcases hx with hx | hx | hx
    · exact generated_of_fetchToken hfetch hx
    · exact (not_traded hpersist (asks_persist _ _) (by decide) hx).elim
    · exact (not_traded hnotice (asks_notice _) (by decide) hx).elim
  | failed hfetch hpersist =>
    simp only [exchangesOf_append, List.mem_append] at hx
    rcases hx with hx | hx
    · exact generated_of_fetchToken hfetch hx
    · exact (not_traded hpersist (asks_persist _ _) (by decide) hx).elim

private theorem trades_of_syncAccount (h : Runs move s (syncAccount c initial forced) ms r s')
    (hx : ⟨.party (.exchange assertion tag), answer⟩ ∈ exchangesOf ms) :
    ∃ m now, (∀ before, Trades c initial m now assertion
        (before ++ ⟨.account .load, .ok (some initial)⟩ :: exchangesOf ms)) ∧
      (m.hasValidCertificate now = true ∨ Login.Exposed (stepBound c) initial) := by
  cases syncing_of_runs h with
  | @married _ _ xs ys run m _ hlogin hm hsync =>
    obtain ⟨now, hlast, hvalid⟩ := valid_or_exposed hlogin.1 hm
    refine ⟨m, now, ?_, hvalid⟩
    intro before
    rw [exchangesOf_append] at hx ⊢
    rcases List.mem_append.mp hx with hx | hx
    · exact (not_traded hlogin asks_login (by decide) hx).elim
    · obtain ⟨rfl, issuedAt, hgen⟩ := generated_of_syncMarried hsync hx
      exact .intro hlogin.1 hm hlast hgen hx
  | short hlogin _ hinterval hpersist hnot =>
    simp only [exchangesOf_append, List.mem_append] at hx
    rcases hx with hx | hx | hx | hx
    · exact (not_traded hlogin asks_login (by decide) hx).elim
    · exact (not_traded hinterval (asks_requestInterval _) (by decide) hx).elim
    · exact (not_traded hpersist (asks_persist _ _) (by decide) hx).elim
    · exact (not_traded hnot (asks_notMarried _) (by decide) hx).elim

private theorem trades_of_proceed (h : Runs move s (proceed c forced) ms r s')
    (hx : ⟨.party (.exchange assertion tag), answer⟩ ∈ exchangesOf ms) :
    ∃ initial m now, (∀ before, Trades c initial m now assertion (before ++ exchangesOf ms)) ∧
      (m.hasValidCertificate now = true ∨ Login.Exposed (stepBound c) initial) := by
  cases proceeding_of_runs h with
  | failed hkept _ =>
    simp only [exchangesOf_append, exchangesOf_cons, List.mem_append, List.mem_cons] at hx
    rcases hx with hx | hx | hx
    · exact (not_traded hkept (asks_books _) (by decide) hx).elim
    · cases hx
    · cases hx
  | missing hkept _ =>
    simp only [exchangesOf_append, exchangesOf_cons, List.mem_append, List.mem_cons] at hx
    rcases hx with hx | hx | hx
    · exact (not_traded hkept (asks_books _) (by decide) hx).elim
    · cases hx
    · cases hx
  | @loaded _ _ _ xs ys kept initial _ hkept _ hsync =>
    simp only [exchangesOf_append, exchangesOf_cons, List.mem_append, List.mem_cons] at hx
    rcases hx with hx | hx | hx
    · exact (not_traded hkept (asks_books _) (by decide) hx).elim
    · cases hx
    · obtain ⟨m, now, htrades, hvalid⟩ := trades_of_syncAccount hsync hx
      refine ⟨initial, m, now, ?_, hvalid⟩
      intro before
      rw [exchangesOf_append, exchangesOf_cons, ← List.append_assoc]
      exact htrades _

private theorem trades_of_run {extras : SyncExtras} (h : Runs move s (run c extras) ms r s')
    (hx : ⟨.party (.exchange assertion tag), answer⟩ ∈ exchangesOf ms) :
    ∃ initial m now, Trades c initial m now assertion (exchangesOf ms) ∧
      (m.hasValidCertificate now = true ∨ Login.Exposed (stepBound c) initial) := by
  cases attempting_of_runs h with
  | early hfirst => exact (not_traded hfirst (asks_gate _ _) (by decide) hx).elim
  | deferred hfirst hsecond =>
    rw [exchangesOf_append] at hx
    rcases List.mem_append.mp hx with hx | hx
    · exact (not_traded hfirst (asks_gate _ _) (by decide) hx).elim
    · exact (not_traded hsecond (asks_gate _ _) (by decide) hx).elim
  | @proceeds _ _ _ xs ys zs _ hfirst hsecond hproceed =>
    simp only [exchangesOf_append, List.mem_append] at hx
    rcases hx with hx | hx | hx
    · exact (not_traded hfirst (asks_gate _ _) (by decide) hx).elim
    · exact (not_traded hsecond (asks_gate _ _) (by decide) hx).elim
    · obtain ⟨initial, m, now, htrades, hvalid⟩ := trades_of_proceed hproceed hx
      refine ⟨initial, m, now, ?_, hvalid⟩
      rw [exchangesOf_append, exchangesOf_append, ← List.append_assoc]
      exact htrades _

theorem exists_course_bind {α β : Type} {d : Talk α} {f : α → Talk β} {xs : Exchanges} {a : α}
    (h : Course d xs a) : ∃ ys b, Course (d >>= f) (xs ++ ys) b := by
  obtain ⟨ys, b, hb⟩ := exists_course (f a)
  exact ⟨ys, b, course_bind_iff.mpr ⟨xs, a, ys, h, hb, rfl⟩⟩

theorem exists_translated {xs : Login.Exchanges} (h : Login.Drawn xs) : ∃ ys, Translated ofLogin xs ys := by
  induction xs with
  | nil => exact ⟨[], .nil⟩
  | cons x xs ih =>
    obtain ⟨ys, hys⟩ := ih fun e he => h e (List.mem_cons_of_mem x he)
    obtain ⟨q, a⟩ := x
    cases q with
    | now => exact ⟨_, .cons (course_question_iff.mpr rfl) hys⟩
    | ask r => exact ⟨_, .cons (course_question_iff.mpr rfl) hys⟩
    | keyPair =>
      cases a with
      | error e => exact (h e List.mem_cons_self).elim
      | ok pair =>
        have hdraw : Course (ofLogin .keyPair) ([⟨.party .keyPair, pair⟩] ++ []) (.ok pair) :=
          course_bind_iff.mpr ⟨_, pair, [], course_question_iff.mpr rfl, .done _, rfl⟩
        exact ⟨_, .cons hdraw hys⟩
    | report t state => exact ⟨_, .cons (.done ()) hys⟩
    | final state => exact ⟨_, .cons (.done ()) hys⟩

/-- A married account can get to trade an assertion whatever its certificate says. -/
theorem exists_exchange (c : Client) (m : Married) (hc : m.certificate.isEmpty = false) :
    ∃ xs a issuedAt assertion, Course (fetchToken c m) xs a ∧
      m.generateAssertion c.audience issuedAt (seconds c.config.assertionDuration.toNat) = .ok assertion ∧
      ⟨.party (.exchange assertion m.clientState), .error .authRequired⟩ ∈ xs := by
  obtain ⟨xs, issuedAt, hnow⟩ := exists_course (books (Ledger.adjustedNow c.tokenHost))
  obtain ⟨assertion, hgen⟩ : ∃ assertion,
      m.generateAssertion c.audience issuedAt (seconds c.config.assertionDuration.toNat) = .ok assertion := by
    unfold Married.generateAssertion AccountSync.generateAssertion
    rw [hc]
    exact ⟨_, rfl⟩
  obtain ⟨ys, _, hdiagnose⟩ := exists_course (diagnoseIf c.config.debugAssertions c assertion)
  have htrade : Course (trade c m assertion)
      ([⟨.party (.exchange assertion m.clientState), .error .authRequired⟩] ++ [])
      (.error (.outcome (recoverable .authRequired))) :=
    course_bind_iff.mpr ⟨_, .error .authRequired, [], course_question_iff.mpr rfl, .done _, rfl⟩
  have hfetch : Course (fetchToken c m)
      (xs ++ (ys ++ ([⟨.party (.exchange assertion m.clientState), .error .authRequired⟩] ++ [])))
      (.error (.outcome (recoverable .authRequired))) := by
    rw [fetchToken_eq]
    refine course_bind_iff.mpr ⟨xs, issuedAt, _, hnow, ?_, rfl⟩
    rw [hgen]
    exact course_bind_iff.mpr ⟨ys, (), _, hdiagnose, htrade, rfl⟩
  exact ⟨_, _, issuedAt, assertion, hfetch, hgen, by simp⟩

private theorem exists_stale_trade (h : Login.Exposed (stepBound c) initial) :
    ∃ xs r m now assertion, Course (run c ⟨true⟩) xs r ∧ Trades c initial m now assertion xs ∧
      m.hasValidCertificate now = false := by
  obtain ⟨ys, ts, k, hrun, hdrawn, hstale⟩ :=
    Login.exists_stale_advance c.config.maxLoginSteps.toNat (seconds c.config.certificateDuration.toNat) h
  obtain ⟨m, now, hm, hl, hv⟩ := hstale
  cases hm
  obtain ⟨during, ht⟩ := exists_translated hdrawn
  have hlogin : Course (login (bring c initial)) during _ := course_translate_iff.mpr ⟨ys, hrun, ht⟩
  obtain ⟨before, kept, hbefore⟩ := exists_course (books (Schedule.beforeSyncing c.config))
  obtain ⟨xs, a, issuedAt, assertion, hfetch, hgen, hx⟩ :=
    exists_exchange c ⟨k, Login.blankCertificate⟩ rfl
  obtain ⟨zs, r, hmarried⟩ : ∃ zs r,
      Course (syncMarried c initial ⟨k, Login.blankCertificate⟩ true) (xs ++ zs) r :=
    exists_course_bind hfetch
  have hsync : Course (syncAccount c initial true) (during ++ (xs ++ zs)) r := by
    refine course_bind_iff.mpr ⟨during, _, _, hlogin, ?_, rfl⟩
    exact course_bind_iff.mpr ⟨[], (), xs ++ zs, .done (), hmarried, rfl⟩
  have hproceed : Course (proceed c true)
      (before ++ ⟨.account .load, .ok (some initial)⟩ :: (during ++ (xs ++ zs))) r := by
    refine course_bind_iff.mpr ⟨before, kept, _, hbefore, ?_, rfl⟩
    exact course_bind_iff.mpr ⟨_, .ok (some initial), _, course_question_iff.mpr rfl, hsync, rfl⟩
  refine ⟨_, r, ⟨k, Login.blankCertificate⟩, now, assertion, hproceed, ?_, hv⟩
  exact .intro hlogin rfl ((lastReading_of_translated ht).trans hl) hgen (List.mem_append_left zs hx)

/-- A login run can end married by a certificate that was no good when it last looked at the clock exactly
if its bound can stop it right after a certificate was signed: then it has taken all of its steps. So an
attempt trades an assertion of a certificate that was good when login ended, unless the account that it
loaded was so exposed, and from every such account some attempt trades one of a certificate that was not. -/
theorem traded_assertions_backed (c : Client) (duration : Nat) (initial : Account) :
    ((∃ xs run, Course (Login.advance c.config.maxLoginSteps.toNat duration initial .married) xs run ∧
        Login.Stale xs run.state) ↔ Login.Exposed (stepBound c) initial) ∧
    (∀ xs run, Course (Login.advance c.config.maxLoginSteps.toNat duration initial .married) xs run →
      Login.Stale xs run.state → run.transitions.length = stepBound c) ∧
    (∀ extras xs r assertion tag answer, Course (run c extras) xs r →
      ⟨.party (.exchange assertion tag), answer⟩ ∈ xs →
      ∃ initial m now, Trades c initial m now assertion xs ∧
        (m.hasValidCertificate now = true ∨ Login.Exposed (stepBound c) initial)) ∧
    (Login.Exposed (stepBound c) initial → ∃ extras xs r m now assertion, Course (run c extras) xs r ∧
      Trades c initial m now assertion xs ∧ m.hasValidCertificate now = false) := by
  refine ⟨⟨?_, ?_⟩, ?_, ?_, ?_⟩
  · rintro ⟨xs, run, hc, hs⟩
    exact (Login.stale_advance hc hs).2
  · intro he
    obtain ⟨xs, ts, k, hc, _, hs⟩ := Login.exists_stale_advance _ duration he
    exact ⟨xs, _, hc, hs⟩
  · intro xs run hc hs
    exact (Login.stale_advance hc hs).1
  · intro extras xs r assertion tag answer hc hx
    obtain ⟨ms, rfl, hr⟩ := runs_of_course hc
    exact trades_of_run hr hx
  · intro he
    obtain ⟨xs, r, m, now, assertion, hc, ht, hv⟩ := exists_stale_trade he
    exact ⟨⟨true⟩, xs, r, m, now, assertion, hc, ht, hv⟩

/-- With the default bound a new account can end married by a certificate that is no good. -/
theorem stale_within_default_bound :
    ∃ xs run, Course (Login.advance Login.defaultMaxSteps 0 (.engaged ⟨"e", "u", true, "s", "f", .zero⟩) .married)
        xs run ∧ Login.Stale xs run.state := by
  have hexposed : Login.Exposed (max 1 Login.defaultMaxSteps) (.engaged ⟨"e", "u", true, "s", "f", .zero⟩) := by
    decide
  obtain ⟨xs, ts, k, hc, _, hs⟩ := Login.exists_stale_advance Login.defaultMaxSteps 0 hexposed
  exact ⟨xs, _, hc, hs⟩

end AccountSync.Attempt
