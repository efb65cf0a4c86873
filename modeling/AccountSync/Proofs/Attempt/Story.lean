import AccountSync.Proofs.Attempt.Handoff
import AccountSync.Proofs.Attempt.Saving

/-!
What can be told of an attempt afterwards: what others answered that decides about it, and what it said to the user and
to the host. Each stage adds its own part of the story; `ending_of_run` lists the stories of whole attempts, each with
the outcomes that it can have.
-/

set_option autoImplicit false
set_option relaxedAutoImplicit false

namespace AccountSync.Attempt

open Dialogue

def vacant : Exchange Question.Answer → Bool
  | ⟨.account .load, .ok none⟩ => true
  | _ => false

def said? : Exchange Question.Answer → Option Notice.Event
  | ⟨.notice event, _⟩ => some event
  | _ => none

def said (xs : Exchanges) : List Notice.Event := xs.filterMap said?

def interval? : Exchange Question.Answer → Option Schedule.Interval
  | ⟨.party (.interval interval), _⟩ => some interval
  | _ => none

def intervals (xs : Exchanges) : List Schedule.Interval := xs.filterMap interval?

def plan? : Exchange Question.Answer → Option Storage.Plan
  | ⟨.party (.startEngine _), plan⟩ => some plan
  | _ => none

def plans (xs : Exchanges) : List Storage.Plan := xs.filterMap plan?

def told? : Exchange Question.Answer → Option (Exchange Storage.Step.Answer)
  | ⟨.party (.tell step answer), _⟩ => some ⟨step, answer⟩
  | _ => none

def told (xs : Exchanges) : List (Exchange Storage.Step.Answer) := xs.filterMap told?

/-- All that can be told of an attempt. -/
@[ext] structure Story where
  /-- The store has no account. -/
  vacant : Bool := false
  /-- The token server refuses the credentials. -/
  refused : Bool := false
  grants : List TokenServer.Token := []
  plans : List Storage.Plan := []
  told : List (Exchange Storage.Step.Answer) := []
  said : List Notice.Event := []
  intervals : List Schedule.Interval := []

def story (xs : Exchanges) : Story where
  vacant := xs.any vacant
  refused := xs.any refuses
  grants := grants xs
  plans := plans xs
  told := told xs
  said := said xs
  intervals := intervals xs

namespace Story

def append (a b : Story) : Story where
  vacant := a.vacant || b.vacant
  refused := a.refused || b.refused
  grants := a.grants ++ b.grants
  plans := a.plans ++ b.plans
  told := a.told ++ b.told
  said := a.said ++ b.said
  intervals := a.intervals ++ b.intervals

instance : Append Story := ⟨append⟩

private theorem append_blank (a : Story) : a ++ ({} : Story) = a := by
  refine Story.ext ?_ ?_ ?_ ?_ ?_ ?_ ?_
  · exact Bool.or_false _
  · exact Bool.or_false _
  · exact List.append_nil _
  · exact List.append_nil _
  · exact List.append_nil _
  · exact List.append_nil _
  · exact List.append_nil _

private theorem intervals_append_said (intervals : List Schedule.Interval) (said : List Notice.Event) :
    ({ intervals } : Story) ++ ({ said } : Story) = { said, intervals } :=
  Story.ext rfl rfl rfl rfl rfl rfl (List.append_nil intervals)

private theorem told_append_said (told : List (Exchange Storage.Step.Answer)) (said : List Notice.Event)
    (intervals : List Schedule.Interval) :
    ({ told } : Story) ++ ({ said, intervals } : Story) = { told, said, intervals } :=
  Story.ext rfl rfl rfl rfl (List.append_nil told) rfl rfl

def EngineEnded (a : Story) (o : Storage.Outcome) : Prop := ∃ plan ∈ a.plans, Course plan a.told o

end Story

section Exchanges

variable {xs ys : Exchanges} {parts : List Part}

private theorem story_append : story (xs ++ ys) = story xs ++ story ys := by
  refine Story.ext ?_ ?_ ?_ ?_ ?_ ?_ ?_
  · exact List.any_append
  · exact List.any_append
  · exact List.filterMap_append
  · exact List.filterMap_append
  · exact List.filterMap_append
  · exact List.filterMap_append
  · exact List.filterMap_append

private theorem story_cons (x : Exchange Question.Answer) (xs : Exchanges) :
    story (x :: xs) = story [x] ++ story xs := by
  rw [← story_append, List.singleton_append]

private theorem part_of_vacant {x : Exchange Question.Answer} (h : vacant x = true) : x.question.part = .account := by
  unfold vacant at h
  split at h
  · rfl
  · cases h

theorem part_of_said? {x : Exchange Question.Answer} {event : Notice.Event} (h : said? x = some event) :
    x.question.part = .user := by
  unfold said? at h
  split at h
  · rfl
  · cases h

private theorem part_of_interval? {x : Exchange Question.Answer} {interval : Schedule.Interval}
    (h : interval? x = some interval) : x.question.part = .host := by
  unfold interval? at h
  split at h
  · rfl
  · cases h

private theorem part_of_plan? {x : Exchange Question.Answer} {plan : Storage.Plan} (h : plan? x = some plan) :
    x.question.part = .engine := by
  unfold plan? at h
  split at h
  · rfl
  · cases h

private theorem part_of_told? {x : Exchange Question.Answer} {y : Exchange Storage.Step.Answer} (h : told? x = some y) :
    x.question.part = .engine := by
  unfold told? at h
  split at h
  · rfl
  · cases h

private theorem any_vacant_of_within (h : ∀ x ∈ xs, Within parts x.question) (hp : .account ∉ parts) :
    xs.any vacant = false := by
  refine List.any_eq_false.mpr fun x hx hv => hp ?_
  rw [← part_of_vacant hv]
  exact h x hx

/-- Exchanges with the ledger, for login and with the verifier tell nothing. -/
theorem story_of_within (h : ∀ x ∈ xs, Within parts x.question)
    (hp : ∀ p ∈ [Part.account, .token, .engine, .user, .host], p ∉ parts) : story xs = {} := by
  refine Story.ext ?_ ?_ ?_ ?_ ?_ ?_ ?_
  · exact any_vacant_of_within h (hp _ (by decide))
  · exact any_refuses_of_within h (hp _ (by decide))
  · exact grants_of_within h (hp _ (by decide))
  · exact untold_of_within part_of_plan? h (hp _ (by decide))
  · exact untold_of_within part_of_told? h (hp _ (by decide))
  · exact untold_of_within part_of_said? h (hp _ (by decide))
  · exact untold_of_within part_of_interval? h (hp _ (by decide))

end Exchanges

/-- The engine ended without a sync, and the storage server asked for nothing. -/
def Broken : Storage.Outcome → Prop
  | .success _ => False
  | .failed _ => True
  | .aborted _ => True
  | .unauthorized => False
  | .upgradeRequired => False
  | .crashed _ => True

/-- How an attempt ends, and what can be told of it then. -/
inductive Ending (c : Client) : SyncOutcome → Story → Prop
  /-- It has to be made again, and nothing has changed. -/
  | retried {r : SyncOutcome} : r.shouldRetry = true → Ending c r {}
  | missing {reason : String} : Ending c (.unrecoverable reason) { vacant := true }
  /-- Login ends where the user has to do something. -/
  | halted {state : Account} : state.neededAction ≠ .none →
      Ending c (.cannotSync state.label state.neededAction)
        { said := [.notify state.email state.label state.neededAction]
          intervals := (Schedule.afterLogin c.config state.neededAction).toList }
  | refused {m : Married} {reason : String} :
      Ending c (.unrecoverable reason)
        { refused := true, said := [.notify m.account.email .cohabiting .needsPassword] }
  /-- There is a token, but the engine is not started. -/
  | granted {token : TokenServer.Token} {r : SyncOutcome} : r.shouldRetry = true →
      Ending c r { grants := [token], said := [.clear] }
  | synced {token : TokenServer.Token} {plan : Storage.Plan} {told : List (Exchange Storage.Step.Answer)}
      {otherClients : Nat} : Course plan told (.success otherClients) →
      Ending c .success
        { grants := [token], plans := [plan], told, said := [.clear]
          intervals := [Schedule.afterSuccess c.config otherClients] }
  | broken {token : TokenServer.Token} {plan : Storage.Plan} {told : List (Exchange Storage.Step.Answer)}
      {o : Storage.Outcome} {reason : String} : Course plan told o → Broken o →
      Ending c (.recoverable reason) { grants := [token], plans := [plan], told, said := [.clear] }
  | unauthorized {token : TokenServer.Token} {plan : Storage.Plan} {told : List (Exchange Storage.Step.Answer)}
      {reason : String} : Course plan told .unauthorized →
      Ending c (.recoverable reason)
        { grants := [token], plans := [plan], told, said := [.clear]
          intervals := [Schedule.singleDevice c.config] }
  | outdated {token : TokenServer.Token} {plan : Storage.Plan} {told : List (Exchange Storage.Step.Answer)}
      {m : Married} {reason : String} : Course plan told .upgradeRequired →
      Ending c (.unrecoverable reason)
        { grants := [token], plans := [plan], told, intervals := [none]
          said := [.clear, .notify m.account.email .married .needsUpgrade] }

section Stages

variable {σ : Type} {move : σ → Exchange Question.Answer → σ → Prop} {c : Client} {initial state : Account}
  {m : Married} {token : TokenServer.Token} {forced : Bool} {extras : SyncExtras} {s s' : σ} {ms : Moments σ}
  {r : SyncOutcome}

private theorem story_of_notice {event : Notice.Event} (h : Runs move s (notice event) ms () s') :
    story (exchangesOf ms) = { said := [event] } := by
  obtain ⟨rfl, _⟩ := runs_question_iff.mp h
  rfl

private theorem story_of_requestInterval {interval : Option Schedule.Interval}
    (h : Runs move s (requestInterval interval) ms () s') :
    story (exchangesOf ms) = { intervals := interval.toList } := by
  cases interval with
  | none =>
    obtain ⟨rfl, _, _⟩ := runs_pure_iff.mp h
    rfl
  | some interval =>
    obtain ⟨rfl, _⟩ := runs_question_iff.mp h
    rfl

private theorem story_of_persist (h : Runs move s (persist initial state) ms () s') : story (exchangesOf ms) = {} := by
  unfold persist at h
  split at h
  · obtain ⟨rfl, _, _⟩ := runs_pure_iff.mp h
    rfl
  · obtain ⟨xs, a, t, ys, hq, hp, rfl⟩ := runs_bind_iff.mp h
    obtain ⟨rfl, _, _⟩ := runs_pure_iff.mp hp
    obtain ⟨rfl, _⟩ := runs_question_iff.mp hq
    rfl

/-- An exchange of an assertion tells whether there is a token, and whether the credentials were refused. -/
theorem story_of_fetchToken {a : Except TokenFailure TokenServer.Token} (h : Runs move s (fetchToken c m) ms a s') :
    story (exchangesOf ms) = { refused := isRefusal a, grants := a.toOption.toList } := by
  have hwithin := within_of_runs h (asks_fetchToken c m)
  refine Story.ext ?_ ?_ ?_ ?_ ?_ ?_ ?_
  · exact any_vacant_of_within hwithin (by decide)
  · exact any_refuses_of_fetchToken h
  · exact grants_of_fetchToken h
  · exact untold_of_within part_of_plan? hwithin (by decide)
  · exact untold_of_within part_of_told? hwithin (by decide)
  · exact untold_of_within part_of_said? hwithin (by decide)
  · exact untold_of_within part_of_interval? hwithin (by decide)

private theorem told_append {xs ys : Exchanges} : told (xs ++ ys) = told xs ++ told ys := List.filterMap_append

theorem told_of_perform {x : Storage.Session} {step : Storage.Step} {xs : Exchanges} {a : step.Answer}
    (h : Course (perform x step) xs a) : told xs = [] := by
  have hledger : ∀ {α : Type} {d : Ledger.Talk α} {b : α} {ys : Exchanges}, Course (books d) ys b → told ys = [] :=
    fun hc => untold_of_within part_of_told? ((asks_books _).of_course hc) (by decide)
  cases step with
  | observe status headers => exact hledger h
  | requestBackoff delay => exact hledger h
  | shouldBackOff => exact hledger h
  | work duration =>
    obtain rfl := course_question_iff.mp h
    rfl

private theorem told_of_drive {x : Storage.Session} {plan : Storage.Plan} {xs : Exchanges} {o : Storage.Outcome}
    (h : Course (drive x plan) xs o) : Course plan (told xs) o := by
  obtain ⟨zs, hplan, htranslated⟩ := course_translate_iff.mp h
  suffices htold : told xs = zs by
    rw [htold]
    exact hplan
  clear h hplan
  induction htranslated with
  | nil => rfl
  | @cons step a part zs ys hpart _ ih =>
    obtain ⟨us, b, vs, hperform, hrest, rfl⟩ := course_bind_iff.mp hpart
    obtain ⟨ks, _, ls, htell, hpure, rfl⟩ := course_bind_iff.mp hrest
    obtain rfl := course_question_iff.mp htell
    obtain ⟨rfl, rfl⟩ := course_pure_iff.mp hpure
    rw [told_append, told_append, told_of_perform hperform, ih]
    rfl

private theorem story_of_drive {x : Storage.Session} {plan : Storage.Plan} {o : Storage.Outcome}
    (h : Runs move s (drive x plan) ms o s') :
    ∃ steps, Course plan steps o ∧ story (exchangesOf ms) = { told := steps } := by
  have hwithin := within_of_runs h (asks_drive x plan)
  refine ⟨told (exchangesOf ms), told_of_drive h.1, Story.ext ?_ ?_ ?_ ?_ rfl ?_ ?_⟩
  · exact any_vacant_of_within hwithin (by decide)
  · exact any_refuses_of_within hwithin (by decide)
  · exact grants_of_within hwithin (by decide)
  · refine List.filterMap_eq_nil_iff.mpr fun y hy => Option.eq_none_iff_forall_ne_some.mpr fun plan' hp => ?_
    refine (not_start_drive x plan).of_course h.1 y hy ?_
    unfold plan? at hp
    split at hp
    · exact ⟨_, rfl⟩
    · cases hp
  · exact untold_of_within part_of_said? hwithin (by decide)
  · exact untold_of_within part_of_interval? hwithin (by decide)

private theorem ending_of_conclude {plan : Storage.Plan} {steps : List (Exchange Storage.Step.Answer)}
    {o : Storage.Outcome} (hcourse : Course plan steps o) (h : Runs move s (conclude c m o) ms r s') :
    Ending c r ({ grants := [token], plans := [plan], said := [.clear] } ++
      (({ told := steps } : Story) ++ story (exchangesOf ms))) := by
  cases o with
  | success otherClients =>
    obtain ⟨xs, _, t, ys, hask, hpure, rfl⟩ := runs_bind_iff.mp h
    obtain ⟨rfl, _⟩ := runs_question_iff.mp hask
    obtain ⟨rfl, rfl, _⟩ := runs_pure_iff.mp hpure
    change Ending c _ (_ ++ ({ told := steps } ++ { said := [], intervals := [_] }))
    rw [Story.told_append_said]
    exact .synced hcourse
  | failed chain =>
    obtain ⟨rfl, rfl, _⟩ := runs_pure_iff.mp h
    change Ending c _ (_ ++ ({ told := steps } ++ {}))
    rw [Story.append_blank]
    exact .broken hcourse trivial
  | aborted reason =>
    obtain ⟨rfl, rfl, _⟩ := runs_pure_iff.mp h
    change Ending c _ (_ ++ ({ told := steps } ++ {}))
    rw [Story.append_blank]
    exact .broken hcourse trivial
  | unauthorized =>
    obtain ⟨xs, _, t, ys, hask, hpure, rfl⟩ := runs_bind_iff.mp h
    obtain ⟨rfl, _⟩ := runs_question_iff.mp hask
    obtain ⟨rfl, rfl, _⟩ := runs_pure_iff.mp hpure
    change Ending c _ (_ ++ ({ told := steps } ++ { said := [], intervals := [_] }))
    rw [Story.told_append_said]
    exact .unauthorized hcourse
  | upgradeRequired =>
    obtain ⟨xs, _, t, ys, hask, hrest, rfl⟩ := runs_bind_iff.mp h
    obtain ⟨us, _, u, vs, hnotice, hpure, rfl⟩ := runs_bind_iff.mp hrest
    obtain ⟨rfl, _⟩ := runs_question_iff.mp hask
    obtain ⟨rfl, _⟩ := runs_question_iff.mp hnotice
    obtain ⟨rfl, rfl, _⟩ := runs_pure_iff.mp hpure
    change Ending c _ (_ ++ ({ told := steps } ++ { said := [_], intervals := [_] }))
    rw [Story.told_append_said]
    exact .outdated hcourse
  | crashed message =>
    obtain ⟨rfl, rfl, _⟩ := runs_pure_iff.mp h
    change Ending c _ (_ ++ ({ told := steps } ++ {}))
    rw [Story.append_blank]
    exact .broken hcourse trivial

private theorem shouldRetry_of_gate {p : Ledger.Purpose} (h : Runs move s (gate p forced) ms (some r) s') :
    r.shouldRetry = true := by
  obtain ⟨xs, free, t, rest, _, hrest, _⟩ := runs_bind_iff.mp h
  cases free with
  | error e =>
    obtain ⟨_, hr, _⟩ := runs_pure_iff.mp hrest
    cases hr
    rfl
  | ok free =>
    cases free with
    | true =>
      obtain ⟨_, hr, _⟩ := runs_pure_iff.mp hrest
      cases hr
    | false =>
      obtain ⟨us, left, u, vs, _, hpure, _⟩ := runs_bind_iff.mp hrest
      cases left with
      | error e =>
        obtain ⟨_, hr, _⟩ := runs_pure_iff.mp hpure
        cases hr
        rfl
      | ok left =>
        obtain ⟨_, hr, _⟩ := runs_pure_iff.mp hpure
        cases hr
        rfl

private theorem shouldRetry_of_tokenFailure {e : SyncError} {delay : Option Nat}
    (h : tokenFailure e delay = .outcome r) : r.shouldRetry = true := by
  unfold tokenFailure at h
  split at h
  · cases h
  · cases delay with
    | none =>
      cases h
      rfl
    | some d =>
      cases h
      rfl

/-- Without a token, and without a refusal, another attempt is called for. -/
theorem shouldRetry_of_fetchToken (h : Runs move s (fetchToken c m) ms (.error (.outcome r)) s') :
    r.shouldRetry = true := by
  cases exchanging_of_runs h with
  | unmade _ _ => rfl
  | unanswered _ _ _ _ => rfl
  | @answered _ _ _ _ _ _ _ _ _ response _ _ _ _ _ hsettle =>
    have hresult := result_of_settle hsettle
    cases hr : response.result with
    | ok token =>
      rw [hr] at hresult
      cases hresult
    | error e =>
      rw [hr] at hresult
      injection hresult with hfailure
      exact shouldRetry_of_tokenFailure hfailure.symm

theorem ending_of_syncStorage (h : Runs move s (syncStorage c m token forced) ms r s') :
    Ending c r ({ grants := [token], said := [.clear] } ++ story (exchangesOf ms)) := by
  have hbooks : ∀ {α : Type} {d : Ledger.Talk α} {a : α} {t u : σ} {ns : Moments σ}, Runs move t (books d) ns a u →
      story (exchangesOf ns) = {} :=
    fun hruns => story_of_within (within_of_runs hruns (asks_books _)) (by decide)
  cases handing_of_runs h with
  | unreadable _ => exact .granted rfl
  | unswitched _ hswitch =>
    rw [hbooks hswitch]
    exact .granted rfl
  | gated _ hswitch hgate =>
    rw [exchangesOf_append, story_append, hbooks hswitch,
      story_of_within (within_of_runs hgate (asks_gate _ _)) (by decide)]
    exact .granted (shouldRetry_of_gate hgate)
  | @started t u v w x _ xs ys zs us vs endpoint changed skew plan o _ _ hswitch hgate hskew _ hdrive hend =>
    obtain ⟨steps, hcourse, hsteps⟩ := story_of_drive hdrive
    rw [exchangesOf_append, exchangesOf_append, exchangesOf_append, exchangesOf_cons, exchangesOf_append, story_append,
      story_append, story_append, story_cons, story_append, hbooks hswitch,
      story_of_within (within_of_runs hgate (asks_gate _ _)) (by decide), hbooks hskew, hsteps]
    exact ending_of_conclude hcourse hend

private theorem ending_of_syncMarried (h : Runs move s (syncMarried c initial m forced) ms r s') :
    Ending c r (story (exchangesOf ms)) := by
  cases trading_of_runs h with
  | accepted hfetch hpersist hclear hstorage =>
    have hending := ending_of_syncStorage hstorage
    rw [exchangesOf_append, exchangesOf_append, exchangesOf_append, story_append, story_append, story_append,
      story_of_fetchToken hfetch, story_of_persist hpersist, story_of_notice hclear]
    exact hending
  | rejected hfetch hpersist hnotice =>
    rw [exchangesOf_append, exchangesOf_append, story_append, story_append, story_of_fetchToken hfetch,
      story_of_persist hpersist, story_of_notice hnotice]
    exact .refused
  | failed hfetch hpersist =>
    rw [exchangesOf_append, story_append, story_of_fetchToken hfetch, story_of_persist hpersist]
    exact .retried (shouldRetry_of_fetchToken hfetch)

private theorem ending_of_notMarried {run : Login.Run} (h : Runs move s (notMarried run) ms r s') :
    Ending c r ({ intervals := (Schedule.afterLogin c.config run.state.neededAction).toList } ++
      story (exchangesOf ms)) := by
  unfold notMarried at h
  dsimp only at h
  split at h
  · rename_i hnone
    obtain ⟨rfl, rfl, _⟩ := runs_pure_iff.mp h
    rw [hnone]
    exact .retried rfl
  · rename_i hneeded
    obtain ⟨xs, _, t, ys, hnotice, hpure, rfl⟩ := runs_bind_iff.mp h
    obtain ⟨rfl, rfl, _⟩ := runs_pure_iff.mp hpure
    rw [List.append_nil, story_of_notice hnotice, Story.intervals_append_said]
    exact .halted hneeded

private theorem ending_of_syncAccount (h : Runs move s (syncAccount c initial forced) ms r s') :
    Ending c r (story (exchangesOf ms)) := by
  cases syncing_of_runs h with
  | married hlogin _ hmarried =>
    rw [exchangesOf_append, story_append, story_of_within (within_of_runs hlogin asks_login) (by decide)]
    exact ending_of_syncMarried hmarried
  | short hlogin _ hinterval hpersist hnot =>
    rw [exchangesOf_append, exchangesOf_append, exchangesOf_append, story_append, story_append, story_append,
      story_of_within (within_of_runs hlogin asks_login) (by decide), story_of_requestInterval hinterval,
      story_of_persist hpersist]
    exact ending_of_notMarried hnot

/-- Past its deadlines an attempt ends as its account does, if there is one. -/
theorem ending_of_proceed (h : Runs move s (proceed c forced) ms r s') : Ending c r (story (exchangesOf ms)) := by
  have hkept : ∀ {kept : Except SyncError Instant} {t u : σ} {ns : Moments σ},
      Runs move t (books (Schedule.beforeSyncing c.config)) ns kept u → story (exchangesOf ns) = {} :=
    fun hruns => story_of_within (within_of_runs hruns (asks_books _)) (by decide)
  cases proceeding_of_runs h with
  | failed hbefore _ =>
    rw [exchangesOf_append, story_append, hkept hbefore]
    exact .retried rfl
  | missing hbefore _ =>
    rw [exchangesOf_append, story_append, hkept hbefore]
    exact .missing
  | loaded hbefore _ hsync =>
    rw [exchangesOf_append, exchangesOf_cons, story_append, story_cons, hkept hbefore]
    exact ending_of_syncAccount hsync

theorem ending_of_run (h : Runs move s (AccountSync.Attempt.run c extras) ms r s') :
    Ending c r (story (exchangesOf ms)) := by
  have hgate : ∀ {p : Ledger.Purpose} {a : Option SyncOutcome} {t u : σ} {ns : Moments σ},
      Runs move t (gate p extras.forced) ns a u → story (exchangesOf ns) = {} :=
    fun hruns => story_of_within (within_of_runs hruns (asks_gate _ _)) (by decide)
  cases attempting_of_runs h with
  | early hfirst =>
    rw [hgate hfirst]
    exact .retried (shouldRetry_of_gate hfirst)
  | deferred hfirst hsecond =>
    rw [exchangesOf_append, story_append, hgate hfirst, hgate hsecond]
    exact .retried (shouldRetry_of_gate hsecond)
  | proceeds hfirst hsecond hproceed =>
    rw [exchangesOf_append, exchangesOf_append, story_append, story_append, hgate hfirst, hgate hsecond]
    exact ending_of_proceed hproceed

end Stages

end AccountSync.Attempt
