import AccountSync.Proofs.Attempt.Backing
import AccountSync.Proofs.Attempt.Saving
import AccountSync.Proofs.Login.Failure

/-!
What is learnt about an unverified account in a step that then fails. Main statement: `verification_forgotten`,
that the step leaves the account as it was: although the provider has said that it was verified, the user is told
to verify it, and nothing is saved.
-/

set_option autoImplicit false
set_option relaxedAutoImplicit false

namespace AccountSync.Login

open Dialogue

/-- The provider says that an account has been verified. -/
def Confirms (s : Engaged) (xs : Exchanges) : Prop :=
  ∃ status : Provider.EmailStatus, status.verified = true ∧ ⟨.ask (.emailStatus s.sessionToken), .ok status⟩ ∈ xs

variable {maxSteps duration : Nat} {target : StateLabel} {s : Engaged} {e : SyncError} {xs : Exchanges} {run : Run}

private theorem state_of_failure (hi : e.isInvalidAuthentication = false) (hu : e.isUpgradeRequired = false)
    (hn : e.isUnverified = false) (h : Course (advance maxSteps duration (.engaged s) target) xs run)
    (hf : ⟨.engaged s, e⟩ ∈ failures (.engaged s) xs) : run.state = .engaged s := by
  rcases failures_advance h (not_dropped_engaged s) with ⟨hnone, _⟩ | ⟨f, hone, _, hend⟩
  · rw [hnone] at hf
    cases hf
  · rw [hone] at hf
    obtain rfl := List.mem_singleton.mp hf
    rw [hend]
    exact (fallBack_of_other (.engaged s) hi hu).2.2.2 hn

/-- The keys may be refused right after the provider has said that the account was verified. -/
theorem exists_confirmed_failure (maxSteps duration : Nat) (hv : s.verified = false)
    (hi : e.isInvalidAuthentication = false) (hu : e.isUpgradeRequired = false) :
    ∃ xs run, Course (advance maxSteps duration (.engaged s) .married) xs run ∧ Drawn xs ∧ Confirms s xs ∧
      ⟨.engaged s, e⟩ ∈ failures (.engaged s) xs := by
  -- One step is enough: the provider confirms the account, and then refuses its keys.
  obtain ⟨bound, hbound⟩ : ∃ bound, max 1 maxSteps = bound + 1 := ⟨max 1 maxSteps - 1, by omega⟩
  have hcheck : Checking s _ _ := .confirmed ⟨s.email, true⟩ hv rfl (.refused e)
  have hstay : (conclude .fetchKeys (.engaged s) (.error e)).1.kind = .stay := (fallBack_of_other _ hi hu).1
  have hunsettled : isSettled (.engaged s) .married 0 = false := rfl
  have hwalk : Walk duration .married (bound + 1) (.engaged s) _ _ :=
    .stayed hunsettled rfl (course_step_iff.mpr (.fetch hcheck)) hstay
  refine ⟨_, _, course_advance_iff.mpr ⟨_, hbound ▸ hwalk, rfl⟩, ?_, ⟨⟨s.email, true⟩, rfl, ?_⟩, ?_⟩
  · intro fault hfault
    simp at hfault
  · simp
  · simp [failures, fault?, refusal?, defect?, state?]

end AccountSync.Login

namespace AccountSync.Attempt

open Dialogue Login

variable {c : Client} {extras : SyncExtras} {s : Engaged} {ls : Login.Exchanges} {run : Login.Run} {xs : Exchanges}
  {r : SyncOutcome}

/-- An attempt that leaves its account unverified asks the user to verify it, and saves nothing. -/
theorem told_of_unverified (hv : s.verified = false) (hs : run.state = .engaged s)
    (h : Course (AccountSync.Attempt.run c extras) xs r) (hl : LoggedIn c (.engaged s) ls run xs) :
    r = .cannotSync .engaged .needsVerification ∧
    ⟨.notice (.notify s.email .engaged .needsVerification), ()⟩ ∈ xs ∧
    ⟨.party (.interval (some (seconds c.config.unverifiedInterval.toNat))), ()⟩ ∈ xs ∧ saves xs = [] := by
  obtain ⟨ms, rfl, hr⟩ := runs_of_course h
  have hneed : run.state.neededAction = .needsVerification := by
    rw [hs]
    simp [Account.neededAction, hv]
  have hn : ∀ m, run.state ≠ .married m := by
    intro m hm
    cases hs.symm.trans hm
  have hsaves : saves (exchangesOf ms) = [] := by
    rcases saves_of_run hr with hidle | ⟨initial, ls', run', hl', hsaves⟩
    · exact saves_of_idle hidle
    · obtain ⟨rfl, _, rfl⟩ := hl.unique hl'
      have hsame : (Account.engaged s).same (.engaged s) = true := decide_eq_true rfl
      rw [hsaves, kept_of_not_married hn, hs, if_pos hsame]
  cases arriving_of_runs hr with
  | idle hidle => exact (not_loaded_of_idle hidle hl.loaded).elim
  | loaded hopen _ hsync =>
    cases syncing_of_runs hsync with
    | married hlogin hm _ =>
      obtain ⟨ls', hl'⟩ := exists_loggedIn hopen hlogin _
      obtain ⟨_, _, rfl⟩ := hl.unique hl'
      exact (hn _ hm).elim
    | short hlogin _ hinterval _ hnot =>
      obtain ⟨ls', hl'⟩ := exists_loggedIn hopen hlogin _
      obtain ⟨_, _, rfl⟩ := hl.unique hl'
      rw [hneed] at hinterval
      obtain ⟨rfl, _⟩ := runs_question_iff.mp hinterval
      unfold notMarried at hnot
      dsimp only at hnot
      rw [hneed, if_neg NeededAction.noConfusion] at hnot
      obtain ⟨_, _, _, _, htell, hpure, rfl⟩ := runs_bind_iff.mp hnot
      obtain ⟨rfl, rfl, rfl⟩ := runs_pure_iff.mp hpure
      obtain ⟨rfl, _⟩ := runs_question_iff.mp htell
      rw [hs] at hsaves ⊢
      refine ⟨rfl, ?_, ?_, hsaves⟩
      · simp [Account.email, Account.owner, Account.label]
      · simp

/-- A step that fails after the provider has said that the account was verified leaves it unverified all the same, if
it fails for no fault of the account or the client. The attempt then cannot sync until the user verifies the
account, and says so. Any such failure can come right after that word. -/
theorem verification_forgotten {s : Engaged} {e : SyncError} (hv : s.verified = false)
    (hi : e.isInvalidAuthentication = false) (hu : e.isUpgradeRequired = false) (hn : e.isUnverified = false) :
    (∀ maxSteps duration target xs run, Course (advance maxSteps duration (.engaged s) target) xs run →
      ⟨.engaged s, e⟩ ∈ failures (.engaged s) xs →
      run.state = .engaged s ∧ run.state.neededAction = .needsVerification) ∧
    (∀ c extras xs r ls run, Course (AccountSync.Attempt.run c extras) xs r → LoggedIn c (.engaged s) ls run xs →
      ⟨.engaged s, e⟩ ∈ failures (.engaged s) ls →
      r = .cannotSync .engaged .needsVerification ∧
      ⟨.notice (.notify s.email .engaged .needsVerification), ()⟩ ∈ xs ∧
      ⟨.party (.interval (some (seconds c.config.unverifiedInterval.toNat))), ()⟩ ∈ xs ∧ saves xs = []) ∧
    ∀ c, ∃ xs r ls run, Course (AccountSync.Attempt.run c ⟨true⟩) xs r ∧ LoggedIn c (.engaged s) ls run xs ∧
      Confirms s ls ∧ ⟨.engaged s, e⟩ ∈ failures (.engaged s) ls := by
  refine ⟨?_, ?_, ?_⟩
  · intro maxSteps duration target xs run h hf
    have hs := state_of_failure hi hu hn h hf
    refine ⟨hs, ?_⟩
    rw [hs]
    simp [Account.neededAction, hv]
  · intro c extras xs r ls run h hl hf
    exact told_of_unverified hv (state_of_failure hi hu hn hl.course hf) h hl
  · intro c
    obtain ⟨ls, run, hc, hdrawn, hconfirm, hf⟩ := exists_confirmed_failure c.config.maxLoginSteps.toNat
      (seconds c.config.certificateDuration.toNat) hv hi hu
    obtain ⟨during, ht⟩ := exists_translated hdrawn
    have hlogin : Course (login (bring c (.engaged s))) during run := course_translate_iff.mpr ⟨ls, hc, ht⟩
    obtain ⟨before, kept, hbefore⟩ := exists_course (books (Schedule.beforeSyncing c.config))
    obtain ⟨after, r, hsync⟩ : ∃ after r, Course (syncAccount c (.engaged s) true) (during ++ after) r :=
      exists_course_bind hlogin
    have hproceed : Course (proceed c true)
        (before ++ ⟨.account .load, .ok (some (.engaged s))⟩ :: (during ++ after)) r := by
      refine course_bind_iff.mpr ⟨before, kept, _, hbefore, ?_, rfl⟩
      exact course_bind_iff.mpr ⟨_, .ok (some (.engaged s)), _, course_question_iff.mpr rfl, hsync, rfl⟩
    have hledger : ∀ x ∈ before, x.question.part = .ledger :=
      fun x hx => List.mem_singleton.mp ((asks_books _).of_course hbefore x hx)
    exact ⟨_, r, ls, run, hproceed, .intro hledger hc ht, hconfirm, hf⟩

def unverified : Engaged := ⟨"ada@example.org", "u", false, "s", "f", .zero⟩

theorem verification_forgotten_unreachable :
    unverified.verified = false ∧ (SyncError.remote 503 0 "down").isInvalidAuthentication = false ∧
    (SyncError.remote 503 0 "down").isUpgradeRequired = false ∧
    (SyncError.remote 503 0 "down").isUnverified = false ∧
    ∃ xs ls run, Course (AccountSync.Attempt.run ⟨{}, "a", "t"⟩ ⟨true⟩) xs
        (.cannotSync .engaged .needsVerification) ∧
      LoggedIn ⟨{}, "a", "t"⟩ (.engaged unverified) ls run xs ∧ Confirms unverified ls := by
  have hall := verification_forgotten (s := unverified) (e := .remote 503 0 "down") rfl rfl rfl rfl
  obtain ⟨xs, r, ls, run, h, hl, hconfirm, hf⟩ := hall.2.2 ⟨{}, "a", "t"⟩
  obtain ⟨rfl, _⟩ := hall.2.1 _ _ xs r ls run h hl hf
  exact ⟨rfl, rfl, rfl, rfl, xs, ls, run, h, hl, hconfirm⟩

/-- What a step has learnt before it fails is not kept. -/
theorem confirmation_not_kept :
    ¬ ∀ (s : Engaged) (e : SyncError) (maxSteps duration : Nat) (xs : Login.Exchanges) (run : Login.Run),
      s.verified = false → Course (advance maxSteps duration (.engaged s) .married) xs run → Confirms s xs →
      ⟨.engaged s, e⟩ ∈ failures (.engaged s) xs → e.isInvalidAuthentication = false →
      e.isUpgradeRequired = false → e.isUnverified = false → run.state = .engaged { s with verified := true } := by
  intro hclaim
  obtain ⟨xs, run, h, _, hconfirm, hf⟩ :=
    exists_confirmed_failure (s := unverified) (e := .remote 503 0 "down") 8 0 rfl rfl rfl
  have hs := state_of_failure rfl rfl rfl h hf
  cases hs.symm.trans (hclaim unverified (.remote 503 0 "down") 8 0 xs run rfl h hconfirm hf rfl rfl rfl)

end AccountSync.Attempt
