import AccountSync.Proofs.Attempt.Story

/-!
What an attempt comes to, what the user is told and how often the host is to wake the client agree with each other, and
follow from where login ended, what the token server answered and how the engine ended. Main statement:
`attempt_agrees`.
-/

set_option autoImplicit false
set_option relaxedAutoImplicit false

namespace AccountSync

/-- Only the user can help an account on: it is not verified, or needs the password or a newer client. -/
def Account.Halted : Account → Prop
  | .engaged s => s.verified = false
  | .cohabiting _ => False
  | .married _ => False
  | .separated _ => True
  | .doghouse _ => True

private theorem Account.halted_iff (a : Account) : a.Halted ↔ a.neededAction ≠ .none := by
  cases a with
  | engaged s => cases hv : s.verified <;> simp [Account.Halted, Account.neededAction, hv]
  | cohabiting s => simp [Account.Halted, Account.neededAction]
  | married m => simp [Account.Halted, Account.neededAction]
  | separated owner => simp [Account.Halted, Account.neededAction]
  | doghouse owner => simp [Account.Halted, Account.neededAction]

private theorem Notice.current_append {said : List Notice.Event} (h : said ≠ []) (before : List Notice.Event) :
    Notice.current (before ++ said) = Notice.current said := by
  unfold Notice.current
  rw [List.getLast?_append_of_ne_nil _ h]

namespace Attempt

open Dialogue

structure OutcomeAgrees (c : Client) (xs : Exchanges) (r : SyncOutcome) : Prop where
  success : r = .success ↔ ∃ otherClients, (story xs).EngineEnded (.success otherClients)
  cannotSync : ∀ label action, r = .cannotSync label action ↔
    ∃ initial ls run, LoggedIn c initial ls run xs ∧ run.state.Halted ∧ run.state.label = label ∧
      run.state.neededAction = action
  /-- That no account is stored counts where the attempt comes to look for one. -/
  unrecoverable : (∃ reason, r = .unrecoverable reason) ↔
    (story xs).vacant = true ∨ (story xs).refused = true ∨ (story xs).EngineEnded .upgradeRequired
  otherwise : (∀ otherClients, ¬ (story xs).EngineEnded (.success otherClients)) →
    (∀ initial ls run, LoggedIn c initial ls run xs → ¬ run.state.Halted) → (story xs).vacant = false →
    (story xs).refused = false → ¬ (story xs).EngineEnded .upgradeRequired →
    (∃ reason, r = .recoverable reason) ∨ ∃ delay, r = .postponed delay

structure NoticeAgrees (before : List Notice.Event) (a : Story) (r : SyncOutcome) : Prop where
  needed : ∀ label action, r = .cannotSync label action → Notice.current (before ++ a.said) = some (label, action)
  refused : a.refused = true → Notice.current (before ++ a.said) = some (.cohabiting, .needsPassword)
  upgrade : a.EngineEnded .upgradeRequired → Notice.current (before ++ a.said) = some (.married, .needsUpgrade)
  /-- With a token the notice is taken back, whatever comes of it. -/
  cleared : a.grants ≠ [] → ¬ a.EngineEnded .upgradeRequired → Notice.current (before ++ a.said) = none
  otherwise : (∀ label action, r ≠ .cannotSync label action) → a.refused = false → a.grants = [] →
    Notice.current (before ++ a.said) = Notice.current before

/-- The interval that the host is asked for, once at most. -/
structure IntervalAgrees (c : Client) (a : Story) (r : SyncOutcome) : Prop where
  once : a.intervals.length ≤ 1
  unverified : ∀ label, r = .cannotSync label .needsVerification →
    a.intervals = [some (seconds c.config.unverifiedInterval.toNat)]
  disabled : ∀ label action, r = .cannotSync label action → action = .needsPassword ∨ action = .needsUpgrade →
    a.intervals = [none]
  upgrade : a.EngineEnded .upgradeRequired → a.intervals = [none]
  success : ∀ otherClients, a.EngineEnded (.success otherClients) →
    a.intervals = [some (seconds
      (if 0 < otherClients then c.config.multiDeviceInterval else c.config.singleDeviceInterval).toNat)]
  unauthorized : a.EngineEnded .unauthorized → a.intervals = [some (seconds c.config.singleDeviceInterval.toNat)]
  otherwise : (∀ label action, r ≠ .cannotSync label action) → ¬ a.EngineEnded .upgradeRequired →
    (∀ otherClients, ¬ a.EngineEnded (.success otherClients)) → ¬ a.EngineEnded .unauthorized → a.intervals = []

section Endings

variable {c : Client} {a : Story} {r : SyncOutcome} {o o' : Storage.Outcome} {plan : Storage.Plan}
  {label : StateLabel} {action : NeededAction} {before : List Notice.Event}

private theorem not_ended (h : a.plans = []) : ¬ a.EngineEnded o := by
  rintro ⟨plan, hplan, _⟩
  rw [h] at hplan
  cases hplan

private theorem ended_unique (hplan : a.plans = [plan]) (hcourse : Course plan a.told o) (h : a.EngineEnded o') :
    o' = o := by
  obtain ⟨plan', hmem, hcourse'⟩ := h
  rw [hplan] at hmem
  obtain rfl := List.mem_singleton.mp hmem
  have hsame : a.told ++ [] = a.told ++ [] := rfl
  exact (course_unique hcourse' hcourse hsame).2

private theorem ended_of_course (hplan : a.plans = [plan]) (hcourse : Course plan a.told o) : a.EngineEnded o :=
  ⟨plan, hplan ▸ List.mem_singleton_self plan, hcourse⟩

private theorem Ending.success_iff (h : Ending c r a) :
    r = .success ↔ ∃ otherClients, a.EngineEnded (.success otherClients) := by
  cases h with
  | retried hr =>
    refine iff_of_false ?_ fun ⟨_, he⟩ => not_ended rfl he
    rintro rfl
    cases hr
  | missing => exact iff_of_false nofun fun ⟨_, he⟩ => not_ended rfl he
  | halted _ => exact iff_of_false nofun fun ⟨_, he⟩ => not_ended rfl he
  | refused => exact iff_of_false nofun fun ⟨_, he⟩ => not_ended rfl he
  | granted hr =>
    refine iff_of_false ?_ fun ⟨_, he⟩ => not_ended rfl he
    rintro rfl
    cases hr
  | synced hcourse => exact iff_of_true rfl ⟨_, ended_of_course rfl hcourse⟩
  | broken hcourse hbroken =>
    refine iff_of_false nofun ?_
    rintro ⟨_, he⟩
    obtain rfl := ended_unique rfl hcourse he
    exact hbroken
  | unauthorized hcourse =>
    refine iff_of_false nofun ?_
    rintro ⟨_, he⟩
    cases ended_unique rfl hcourse he
  | outdated hcourse =>
    refine iff_of_false nofun ?_
    rintro ⟨_, he⟩
    cases ended_unique rfl hcourse he

private theorem Ending.unrecoverable_iff (h : Ending c r a) :
    (∃ reason, r = .unrecoverable reason) ↔
      a.vacant = true ∨ a.refused = true ∨ a.EngineEnded .upgradeRequired := by
  -- Where the engine ended otherwise, or was not started, there is no reason left.
  have hnone : ∀ {b : Story}, b.vacant = false → b.refused = false → ¬ b.EngineEnded .upgradeRequired →
      ¬ (b.vacant = true ∨ b.refused = true ∨ b.EngineEnded .upgradeRequired) := by
    rintro b hv hr hb (hv' | hr' | hb')
    · cases hv.symm.trans hv'
    · cases hr.symm.trans hr'
    · exact hb hb'
  cases h with
  | retried hr =>
    refine iff_of_false ?_ (hnone rfl rfl (not_ended rfl))
    rintro ⟨reason, rfl⟩
    cases hr
  | missing => exact iff_of_true ⟨_, rfl⟩ (.inl rfl)
  | halted _ => exact iff_of_false nofun (hnone rfl rfl (not_ended rfl))
  | refused => exact iff_of_true ⟨_, rfl⟩ (.inr (.inl rfl))
  | granted hr =>
    refine iff_of_false ?_ (hnone rfl rfl (not_ended rfl))
    rintro ⟨reason, rfl⟩
    cases hr
  | synced hcourse =>
    refine iff_of_false nofun (hnone rfl rfl fun he => ?_)
    cases ended_unique rfl hcourse he
  | broken hcourse hbroken =>
    refine iff_of_false nofun (hnone rfl rfl fun he => ?_)
    obtain rfl := ended_unique rfl hcourse he
    exact hbroken
  | unauthorized hcourse =>
    refine iff_of_false nofun (hnone rfl rfl fun he => ?_)
    cases ended_unique rfl hcourse he
  | outdated hcourse => exact iff_of_true ⟨_, rfl⟩ (.inr (.inr (ended_of_course rfl hcourse)))

/-- Where the user has to do something first, no token was granted, and this is what was said. -/
theorem Ending.halted_of_cannotSync (h : Ending c (.cannotSync label action) a) :
    a.grants = [] ∧ ∃ email, a.said = [.notify email label action] := by
  cases h with
  | retried hr => cases hr
  | halted _ => exact ⟨rfl, _, rfl⟩
  | granted hr => cases hr

private theorem noticeAgrees_of_unsaid (hsaid : a.said = []) (hrefused : a.refused = false) (hplans : a.plans = [])
    (hgrants : a.grants = []) (hr : ∀ label action, r ≠ .cannotSync label action) :
    NoticeAgrees before a r where
  needed := fun label action h => (hr label action h).elim
  refused := fun h => nomatch hrefused.symm.trans h
  upgrade := fun h => (not_ended hplans h).elim
  cleared := fun h => (h hgrants).elim
  otherwise := fun _ _ _ => by rw [hsaid, List.append_nil]

private theorem noticeAgrees_of_cleared (hsaid : a.said = [.clear]) (hrefused : a.refused = false)
    (hgrants : a.grants ≠ [])
    (hupgrade : ¬ a.EngineEnded .upgradeRequired) (hr : ∀ label action, r ≠ .cannotSync label action) :
    NoticeAgrees before a r where
  needed := fun label action h => (hr label action h).elim
  refused := fun h => nomatch hrefused.symm.trans h
  upgrade := fun h => (hupgrade h).elim
  cleared := fun _ _ => by
    rw [hsaid, Notice.current_append (List.cons_ne_nil _ _)]
    rfl
  otherwise := fun _ _ h => (hgrants h).elim

private theorem not_cannotSync_of_shouldRetry (h : r.shouldRetry = true) : r ≠ .cannotSync label action := by
  rintro rfl
  cases h

private theorem Ending.noticeAgrees (h : Ending c r a) (before : List Notice.Event) : NoticeAgrees before a r := by
  cases h with
  | retried hr => exact noticeAgrees_of_unsaid rfl rfl rfl rfl fun _ _ => not_cannotSync_of_shouldRetry hr
  | missing => exact noticeAgrees_of_unsaid rfl rfl rfl rfl fun _ _ => nofun
  | @halted state _ =>
    refine ⟨?_, nofun, fun he => (not_ended rfl he).elim, fun hg => (hg rfl).elim, fun hne => (hne _ _ rfl).elim⟩
    rintro label action ⟨⟩
    exact Notice.current_append (List.cons_ne_nil _ _) before
  | refused =>
    refine ⟨nofun, fun _ => ?_, fun he => (not_ended rfl he).elim, fun hg => (hg rfl).elim, fun _ hr => nomatch hr⟩
    exact Notice.current_append (List.cons_ne_nil _ _) before
  | granted hr =>
    exact noticeAgrees_of_cleared rfl rfl (List.cons_ne_nil _ _) (not_ended rfl)
      (fun _ _ => not_cannotSync_of_shouldRetry hr)
  | synced hcourse =>
    exact noticeAgrees_of_cleared rfl rfl (List.cons_ne_nil _ _) (fun he => nomatch ended_unique rfl hcourse he)
      (fun _ _ => nofun)
  | broken hcourse hbroken =>
    refine noticeAgrees_of_cleared rfl rfl (List.cons_ne_nil _ _) (fun he => ?_) (fun _ _ => nofun)
    obtain rfl := ended_unique rfl hcourse he
    exact hbroken
  | unauthorized hcourse =>
    exact noticeAgrees_of_cleared rfl rfl (List.cons_ne_nil _ _) (fun he => nomatch ended_unique rfl hcourse he)
      (fun _ _ => nofun)
  | outdated hcourse =>
    refine ⟨nofun, nofun, fun _ => ?_, fun _ hne => (hne (ended_of_course rfl hcourse)).elim, fun _ _ hg => nomatch hg⟩
    exact Notice.current_append (List.cons_ne_nil _ _) before

def intervalsAfter (c : Client) : Storage.Outcome → List Schedule.Interval
  | .success otherClients => [Schedule.afterSuccess c.config otherClients]
  | .failed _ => []
  | .aborted _ => []
  | .unauthorized => [Schedule.singleDevice c.config]
  | .upgradeRequired => [none]
  | .crashed _ => []

private theorem intervalAgrees_of_unstarted (hplans : a.plans = []) (hintervals : a.intervals = [])
    (hr : ∀ label action, r ≠ .cannotSync label action) : IntervalAgrees c a r where
  once := by
    rw [hintervals]
    exact Nat.zero_le 1
  unverified := fun label h => (hr label _ h).elim
  disabled := fun label action h => (hr label action h).elim
  upgrade := fun h => (not_ended hplans h).elim
  success := fun _ h => (not_ended hplans h).elim
  unauthorized := fun h => (not_ended hplans h).elim
  otherwise := fun _ _ _ _ => hintervals

private theorem intervalAgrees_of_ended (hplan : a.plans = [plan]) (hcourse : Course plan a.told o)
    (hintervals : a.intervals = intervalsAfter c o) (hr : ∀ label action, r ≠ .cannotSync label action) :
    IntervalAgrees c a r := by
  have hended : ∀ {o'}, a.EngineEnded o' → a.intervals = intervalsAfter c o' := by
    intro o' he
    rw [ended_unique hplan hcourse he]
    exact hintervals
  have hown := ended_of_course hplan hcourse
  refine ⟨?_, fun label h => (hr label _ h).elim, fun label action h => (hr label action h).elim, hended, ?_, hended,
    ?_⟩
  · rw [hintervals]
    cases o <;> simp [intervalsAfter]
  · intro otherClients he
    rw [hended he, intervalsAfter, Schedule.afterSuccess, Schedule.singleDevice]
    split <;> rfl
  · intro _ hupgrade hsuccess hunauthorized
    rw [hintervals]
    cases o with
    | success otherClients => exact (hsuccess otherClients hown).elim
    | unauthorized => exact (hunauthorized hown).elim
    | upgradeRequired => exact (hupgrade hown).elim
    | failed chain => rfl
    | aborted reason => rfl
    | crashed message => rfl

private theorem Ending.intervalAgrees (h : Ending c r a) : IntervalAgrees c a r := by
  cases h with
  | retried hr => exact intervalAgrees_of_unstarted rfl rfl fun _ _ => not_cannotSync_of_shouldRetry hr
  | missing => exact intervalAgrees_of_unstarted rfl rfl fun _ _ => nofun
  | @halted state _ =>
    refine ⟨Option.length_toList_le, ?_, ?_, fun he => (not_ended rfl he).elim, fun _ he => (not_ended rfl he).elim,
      fun he => (not_ended rfl he).elim, fun hne => (hne _ _ rfl).elim⟩
    · rintro label h
      injection h with _ haction
      rw [haction]
      rfl
    · rintro label action h hdisabled
      injection h with _ haction
      rw [haction]
      rcases hdisabled with rfl | rfl <;> rfl
  | refused => exact intervalAgrees_of_unstarted rfl rfl fun _ _ => nofun
  | granted hr => exact intervalAgrees_of_unstarted rfl rfl fun _ _ => not_cannotSync_of_shouldRetry hr
  | synced hcourse => exact intervalAgrees_of_ended rfl hcourse rfl fun _ _ => nofun
  | @broken _ _ _ o _ hcourse hbroken =>
    refine intervalAgrees_of_ended rfl hcourse ?_ fun _ _ => nofun
    cases o with
    | failed chain => rfl
    | aborted reason => rfl
    | crashed message => rfl
    | _ => exact hbroken.elim
  | unauthorized hcourse => exact intervalAgrees_of_ended rfl hcourse rfl fun _ _ => nofun
  | outdated hcourse => exact intervalAgrees_of_ended rfl hcourse rfl fun _ _ => nofun

end Endings

section Runs

variable {σ : Type} {move : σ → Exchange Question.Answer → σ → Prop} {c : Client} {initial : Account} {m : Married}
  {forced : Bool} {extras : SyncExtras} {s s' : σ} {ms : Moments σ} {r : SyncOutcome} {label : StateLabel}
  {action : NeededAction}

private theorem story_of_idle {xs : Exchanges} (h : Idle xs) : (story xs).said = [] :=
  untold_of_within part_of_said? (within_of_idle h) (by decide)

private theorem cannotSync_of_notMarried {run : Login.Run} (h : Runs move s (notMarried run) ms r s') :
    r = .cannotSync label action ↔ run.state.Halted ∧ run.state.label = label ∧ run.state.neededAction = action := by
  rw [Account.halted_iff]
  unfold notMarried at h
  dsimp only at h
  split at h
  · rename_i hnone
    obtain ⟨_, rfl, _⟩ := runs_pure_iff.mp h
    refine iff_of_false nofun ?_
    rintro ⟨hneeded, _⟩
    exact hneeded hnone
  · rename_i hneeded
    obtain ⟨xs, _, t, ys, _, hpure, _⟩ := runs_bind_iff.mp h
    obtain ⟨_, rfl, _⟩ := runs_pure_iff.mp hpure
    constructor
    · intro he
      injection he with hlabel haction
      exact ⟨hneeded, hlabel, haction⟩
    · rintro ⟨_, rfl, rfl⟩
      rfl

private theorem not_cannotSync_of_syncMarried (h : Runs move s (syncMarried c initial m forced) ms r s') :
    r ≠ .cannotSync label action := by
  rintro rfl
  cases trading_of_runs h with
  | accepted _ _ _ hstorage =>
    obtain ⟨hgrants, _⟩ := (ending_of_syncStorage hstorage).halted_of_cannotSync
    exact List.cons_ne_nil _ _ hgrants
  | failed hfetch _ =>
    have hretry := shouldRetry_of_fetchToken hfetch
    cases hretry

/-- The user is needed exactly where the login run of the attempt says so. -/
theorem cannotSync_iff_of_run (h : Runs move s (AccountSync.Attempt.run c extras) ms r s') :
    r = .cannotSync label action ↔ ∃ initial ls run, LoggedIn c initial ls run (exchangesOf ms) ∧ run.state.Halted ∧
      run.state.label = label ∧ run.state.neededAction = action := by
  -- An attempt has one login run at most.
  have hunique : ∀ {initial ls run}, LoggedIn c initial ls run (exchangesOf ms) →
      (r = .cannotSync label action ↔ run.state.Halted ∧ run.state.label = label ∧ run.state.neededAction = action) →
      (r = .cannotSync label action ↔ ∃ initial ls run, LoggedIn c initial ls run (exchangesOf ms) ∧
        run.state.Halted ∧ run.state.label = label ∧ run.state.neededAction = action) := by
    intro initial ls run hl hiff
    rw [hiff]
    constructor
    · intro hstate
      exact ⟨initial, ls, run, hl, hstate⟩
    · rintro ⟨initial', ls', run', hl', hstate⟩
      obtain ⟨_, _, rfl⟩ := hl.unique hl'
      exact hstate
  have hending := ending_of_run h
  cases arriving_of_runs h with
  | idle hidle =>
    refine iff_of_false ?_ ?_
    · rintro rfl
      obtain ⟨_, email, hsaid⟩ := hending.halted_of_cannotSync
      exact List.cons_ne_nil _ _ (hsaid.symm.trans (story_of_idle hidle))
    · rintro ⟨initial, ls, run, hl, _⟩
      exact not_loaded_of_idle hidle hl.loaded
  | loaded hopen _ hsync =>
    cases syncing_of_runs hsync with
    | @married _ _ xs ys run m _ hlogin hm hmarried =>
      obtain ⟨ls, hl⟩ := exists_loggedIn hopen hlogin ys
      refine hunique hl (iff_of_false (not_cannotSync_of_syncMarried hmarried) ?_)
      rintro ⟨hhalted, _⟩
      rw [hm] at hhalted
      exact hhalted
    | @short _ _ _ _ xs ys zs us run _ hlogin _ _ _ hnot =>
      obtain ⟨ls, hl⟩ := exists_loggedIn hopen hlogin (ys ++ (zs ++ us))
      exact hunique hl (cannotSync_of_notMarried hnot)

end Runs

/-- In every attempt the outcome, the notice that stands then and the interval that the host is asked for agree: they
follow from whether an account is stored, the state in which login ended, what the token server answered and how the
engine ended. -/
theorem attempt_agrees (c : Client) (extras : SyncExtras) {xs : Exchanges} {r : SyncOutcome}
    (h : Course (run c extras) xs r) :
    OutcomeAgrees c xs r ∧ (∀ before, NoticeAgrees before (story xs) r) ∧ IntervalAgrees c (story xs) r := by
  obtain ⟨ms, rfl, hr⟩ := runs_of_course h
  have hending := ending_of_run hr
  have hcannot : ∀ label action, r = .cannotSync label action ↔ _ := fun label action => cannotSync_iff_of_run hr
  refine ⟨⟨hending.success_iff, hcannot, hending.unrecoverable_iff, ?_⟩, hending.noticeAgrees, hending.intervalAgrees⟩
  intro hsuccess hhalted hvacant hrefused hupgrade
  cases hr : r with
  | success =>
    obtain ⟨n, he⟩ := hending.success_iff.mp hr
    exact (hsuccess n he).elim
  | postponed delay => exact .inr ⟨delay, rfl⟩
  | cannotSync label action =>
    obtain ⟨initial, ls, run, hl, hstate, _⟩ := (hcannot label action).mp hr
    exact (hhalted initial ls run hl hstate).elim
  | recoverable reason => exact .inl ⟨reason, rfl⟩
  | unrecoverable reason =>
    rcases hending.unrecoverable_iff.mp ⟨reason, hr⟩ with hv | hf | hu
    · cases hvacant.symm.trans hv
    · cases hrefused.symm.trans hf
    · exact (hupgrade hu).elim

theorem attempt_agrees_separated :
    ∃ xs, Course (run ⟨{}, "a", "t"⟩ ⟨true⟩) xs (.cannotSync .separated .needsPassword) ∧
      Notice.current (said xs) = some (.separated, .needsPassword) ∧ intervals xs = [none] ∧
      ∃ initial ls run, LoggedIn ⟨{}, "a", "t"⟩ initial ls run xs ∧ run.state.Halted := by
  have hresult : ((run ⟨{}, "a", "t"⟩ ⟨true⟩).run answerEnded ()).1 = .cannotSync .separated .needsPassword := by
    decide
  have hcourse := course_run answerEnded (run ⟨{}, "a", "t"⟩ ⟨true⟩) ()
  rw [hresult] at hcourse
  obtain ⟨houtcome, hnotice, hinterval⟩ := attempt_agrees _ _ hcourse
  obtain ⟨initial, ls, run, hl, hhalted, _⟩ := (houtcome.cannotSync _ _).mp rfl
  exact ⟨_, hcourse, (hnotice []).needed _ _ rfl, hinterval.disabled _ _ rfl (.inl rfl), initial, ls, run, hl, hhalted⟩

/-- No account is stored, and the deadline of the token server has not come. -/
def unstored : World Unit where
  ledger := ⟨1000000, ⟨[(Ledger.deadlineKey .tokenServer, "1005000")], []⟩, []⟩
  others := ()

/-- An attempt that is put off does not look for an account: that none is stored decides nothing then. -/
theorem unstored_postponed :
    ¬ ∀ (c : Client) (extras : SyncExtras) (w : World Unit), w.accounts.account = none → w.accounts.loadFault = none →
      ∃ reason, ((run c extras).run (World.answer granting) w).1 = .unrecoverable reason := by
  intro hall
  have hpostponed : ((run ⟨{}, "a", "t"⟩ ⟨false⟩).run (World.answer granting) unstored).1 = .postponed 5000 := by
    decide +kernel
  obtain ⟨reason, hreason⟩ := hall ⟨{}, "a", "t"⟩ ⟨false⟩ unstored rfl rfl
  cases hpostponed.symm.trans hreason

end Attempt

end AccountSync
