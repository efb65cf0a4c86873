import AccountSync.Proofs.Attempt.History
import AccountSync.Proofs.Login.Custody

/-!
The stored account in a history of attempts. Main statement: `stored_account_kept`, that its owner never
changes, its keys stay with it until it is dropped, and from then on nothing is done but to tell the user.
-/

set_option autoImplicit false
set_option relaxedAutoImplicit false

namespace AccountSync.Attempt

open Dialogue Login

/-- Surroundings seen as the stored account: a store that may fail to save, and others that answer anything. -/
def Stored (s : Account) (x : Exchange Question.Answer) (s' : Account) : Prop :=
  match x with
  | ⟨.account .load, a⟩ => a = .ok (some s) ∧ s' = s
  | ⟨.account (.save new), a⟩ => (a = .ok () ∧ s' = new) ∨ ((∃ e, a = .error e) ∧ s' = s)
  | _ => s' = s

private theorem Stored.eq_of_part {s s' : Account} {x : Exchange Question.Answer} (h : Stored s x s')
    (hp : x.question.part ≠ .account) : s' = s := by
  obtain ⟨q, a⟩ := x
  cases q with
  | account call => exact (hp rfl).elim
  | ledger q => exact h
  | notice event => exact h
  | work duration => exact h
  | party q => exact h

variable {c : Client} {forced : Bool} {initial s s' : Account} {m : Married} {ms : Moments Account}
  {r : SyncOutcome}

private theorem stored_eq {α : Type} {d : Talk α} {a : α} {parts : List Part} (h : Runs Stored s d ms a s')
    (hd : d.Asks (Within parts)) (hp : .account ∉ parts) : s' = s := by
  refine (h.2.keeps Eq.refl (fun _ _ _ => Eq.trans) ?_).symm
  intro t n hn hmove
  refine (hmove.eq_of_part fun he => hp ?_).symm
  rw [← he]
  exact confined_of_runs hd h n hn

private theorem stored_of_persist {state : Account} (h : Runs Stored s (persist initial state) ms () s') :
    s' = s ∨ s' = state := by
  unfold persist at h
  split at h
  · obtain ⟨_, _, rfl⟩ := runs_pure_iff.mp h
    exact .inl rfl
  · obtain ⟨xs, a, t, ys, hq, hp, rfl⟩ := runs_bind_iff.mp h
    obtain ⟨_, _, rfl⟩ := runs_pure_iff.mp hp
    obtain ⟨_, hmove⟩ := runs_question_iff.mp hq
    rcases hmove with ⟨_, he⟩ | ⟨_, he⟩
    · exact .inr he
    · exact .inl he

private theorem keeps_of_persist {state : Account} (hk : Keeps s state)
    (h : Runs Stored s (persist initial state) ms () s') : Keeps s s' := by
  rcases stored_of_persist h with rfl | rfl
  · exact .refl s'
  · exact hk

private theorem keeps_of_login {move : Account → Exchange Question.Answer → Account → Prop} {run : Login.Run}
    (h : Runs move s (login (bring c initial)) ms run s') : Keeps initial run.state := by
  obtain ⟨xs, hc, _⟩ := runs_translate h
  exact keeps_of_advance hc

private theorem keeps_of_syncMarried (hk : Keeps s (.married m))
    (h : Runs Stored s (syncMarried c initial m forced) ms r s') : Keeps s s' := by
  cases trading_of_runs h with
  | accepted hfetch hpersist hclear hstorage =>
    obtain rfl := stored_eq hfetch (asks_fetchToken c m) (by decide)
    obtain rfl := stored_eq hclear (asks_notice _) (by decide)
    obtain rfl := stored_eq hstorage (asks_syncStorage c m _ forced) (by decide)
    exact keeps_of_persist hk hpersist
  | rejected hfetch hpersist hnotice =>
    obtain rfl := stored_eq hfetch (asks_fetchToken c m) (by decide)
    obtain rfl := stored_eq hnotice (asks_notice _) (by decide)
    exact keeps_of_persist (hk.trans (keeps_cohabiting m)) hpersist
  | failed hfetch hpersist =>
    obtain rfl := stored_eq hfetch (asks_fetchToken c m) (by decide)
    exact keeps_of_persist hk hpersist

private theorem keeps_of_syncAccount (h : Runs Stored s (syncAccount c s forced) ms r s') : Keeps s s' := by
  cases syncing_of_runs h with
  | married hlogin hm hsync =>
    have hk := keeps_of_login hlogin
    rw [hm] at hk
    obtain rfl := stored_eq hlogin asks_login (by decide)
    exact keeps_of_syncMarried hk hsync
  | short hlogin _ hinterval hpersist hnot =>
    have hk := keeps_of_login hlogin
    obtain rfl := stored_eq hlogin asks_login (by decide)
    obtain rfl := stored_eq hinterval (asks_requestInterval _) (by decide)
    obtain rfl := stored_eq hnot (asks_notMarried _) (by decide)
    exact keeps_of_persist hk hpersist

private theorem keeps_of_run {extras : SyncExtras} (h : Runs Stored s (run c extras) ms r s') : Keeps s s' := by
  cases attempting_of_runs h with
  | early hfirst =>
    obtain rfl := stored_eq hfirst (asks_gate _ _) (by decide)
    exact .refl _
  | deferred hfirst hsecond =>
    obtain rfl := stored_eq hfirst (asks_gate _ _) (by decide)
    obtain rfl := stored_eq hsecond (asks_gate _ _) (by decide)
    exact .refl _
  | proceeds hfirst hsecond hproceed =>
    obtain rfl := stored_eq hfirst (asks_gate _ _) (by decide)
    obtain rfl := stored_eq hsecond (asks_gate _ _) (by decide)
    cases proceeding_of_runs hproceed with
    | failed hkept hload => cases hload.1
    | missing hkept hload => cases hload.1
    | loaded hkept hload hsync =>
      obtain rfl := stored_eq hkept (asks_books _) (by decide)
      obtain ⟨hfound, rfl⟩ := hload
      cases hfound
      exact keeps_of_syncAccount hsync

private theorem login_of_dropped {move : Account → Exchange Question.Answer → Account → Prop} {run : Login.Run}
    (hd : Dropped initial) (h : Runs move s (login (bring c initial)) ms run s') :
    run = ⟨[], initial⟩ ∧ Confined [.ledger] ms := by
  obtain ⟨xs, hc, hr⟩ := runs_translate h
  obtain ⟨hrun, hcalls⟩ := advance_of_dropped hd hc
  have hasks : ∀ x ∈ xs, (ofLogin x.question).Asks (Within [.ledger]) := by
    intro x hx
    have hx' := hcalls x hx
    obtain ⟨q, a⟩ := x
    cases q with
    | now => exact asks_books _
    | ask r => exact (hx' trivial).elim
    | keyPair => exact (hx' trivial).elim
    | report t state => trivial
    | final state => trivial
  exact ⟨hrun, hr.asks hasks⟩

private theorem neededAction_ne_none_of_dropped {state : Account} (hd : Dropped state) :
    state.neededAction ≠ .none := by
  cases state with
  | engaged s => rcases hd with h | h <;> cases h
  | cohabiting k => rcases hd with h | h <;> cases h
  | married m => rcases hd with h | h <;> cases h
  | separated o => exact NeededAction.noConfusion
  | doghouse o => exact NeededAction.noConfusion

private theorem outcome_of_notMarried {move : Account → Exchange Question.Answer → Account → Prop} {run : Login.Run}
    (hn : run.state.neededAction ≠ .none) (h : Runs move s (notMarried run) ms r s') :
    r = .cannotSync run.state.label run.state.neededAction := by
  unfold notMarried at h
  dsimp only at h
  rw [if_neg hn] at h
  obtain ⟨_, _, _, _, _, hp, _⟩ := runs_bind_iff.mp h
  obtain ⟨_, hr, _⟩ := runs_pure_iff.mp hp
  exact hr

/-- The parts that an attempt talks to about an account that was dropped. -/
def quietParts : List Part := [.ledger, .account, .host, .user]

private theorem syncAccount_of_dropped (hd : Dropped initial)
    (h : Runs Stored s (syncAccount c initial forced) ms r s') :
    r = .cannotSync initial.label initial.neededAction ∧ Confined quietParts ms := by
  cases syncing_of_runs h with
  | married hlogin hm _ =>
    obtain ⟨rfl, _⟩ := login_of_dropped hd hlogin
    obtain rfl := hm
    rcases hd with h | h <;> cases h
  | short hlogin _ hinterval hpersist hnot =>
    obtain ⟨rfl, hledger⟩ := login_of_dropped hd hlogin
    refine ⟨outcome_of_notMarried (neededAction_ne_none_of_dropped hd) hnot, ?_⟩
    have hhost := confined_of_runs (asks_requestInterval _) hinterval
    have haccount := confined_of_runs (asks_persist _ _) hpersist
    have huser := confined_of_runs (asks_notMarried _) hnot
    rw [confined_append, confined_append, confined_append]
    exact ⟨hledger.mono (by decide), hhost.mono (by decide), haccount.mono (by decide),
      huser.mono (by decide)⟩

private theorem run_of_dropped {extras : SyncExtras} (hd : Dropped s) (h : Runs Stored s (run c extras) ms r s')
    (hp : Passed ms) : r = .cannotSync s.label s.neededAction ∧ Confined quietParts ms := by
  obtain ⟨xs, t, ys, u, zs, hfirst, hsecond, hproceed, rfl⟩ := proceeds_of_passed h hp
  have hgate := confined_of_runs (asks_gate _ _) hfirst
  have hgate' := confined_of_runs (asks_gate _ _) hsecond
  obtain rfl := stored_eq hfirst (asks_gate _ _) (by decide)
  obtain rfl := stored_eq hsecond (asks_gate _ _) (by decide)
  cases proceeding_of_runs hproceed with
  | failed _ hload => cases hload.1
  | missing _ hload => cases hload.1
  | loaded hkept hload hsync =>
    have hledger := confined_of_runs (asks_books _) hkept
    obtain rfl := stored_eq hkept (asks_books _) (by decide)
    obtain ⟨hfound, rfl⟩ := hload
    cases hfound
    obtain ⟨hr, hquiet⟩ := syncAccount_of_dropped hd hsync
    refine ⟨hr, ?_⟩
    rw [confined_append, confined_append, confined_append]
    refine ⟨hgate.mono (by decide), hgate'.mono (by decide), hledger.mono (by decide), ?_⟩
    intro n hn
    rcases List.mem_cons.mp hn with rfl | hn
    · exact List.mem_cons_of_mem _ List.mem_cons_self
    · exact hquiet n hn

/-- In any history of attempts the stored account keeps its owner. Once it has been dropped it stays as it
is, and every attempt that comes past its deadlines says so without a call. As long as it has not been
dropped it keeps its session token, keys and key pair. -/
theorem stored_account_kept (c : Client) {s s' : Account} {made : List (Made Account)}
    (h : History Stored c s made s') :
    (s'.email = s.email ∧ s'.uid = s.uid) ∧
    (Dropped s → s' = s ∧ ∀ m ∈ made, Passed m.moments →
      m.outcome = .cannotSync s.label s.neededAction ∧
      ∀ n ∈ m.moments, n.exchange.question.part ∉ [Part.identity, .keys, .token, .verifier, .engine]) ∧
    ∀ k, credentials? s = some k → s'.label ≠ .engaged ∧ (credentials? s' = some k ∨ Dropped s') := by
  have kept : Keeps s s' := by
    refine (h.invariant (I := Keeps s) (P := fun _ => True) ?_ (.refl s)).1
    intro t m u ht hr
    exact ⟨ht.trans (keeps_of_run hr), trivial⟩
  refine ⟨⟨?_, ?_⟩, ?_, ?_⟩
  · exact congrArg Owner.email kept.owner
  · exact congrArg Owner.uid kept.owner
  · intro hd
    refine ⟨kept.dropped hd, ?_⟩
    refine (h.invariant (I := fun t => t = s) ?_ rfl).2
    rintro _ m u rfl hr
    refine ⟨(keeps_of_run hr).dropped hd, ?_⟩
    intro hp
    obtain ⟨hout, hquiet⟩ := run_of_dropped hd hr hp
    refine ⟨hout, ?_⟩
    intro n hn
    have hpart := hquiet n hn
    unfold Within quietParts at hpart
    revert hpart
    generalize n.exchange.question.part = part
    revert part
    decide
  · intro k hk
    have hk' := kept.credentials k hk
    refine ⟨?_, hk'⟩
    intro hl
    cases s' with
    | engaged e =>
      rcases hk' with hk' | hd
      · cases hk'
      · rcases hd with hd | hd <;> cases hd
    | cohabiting k' => cases hl
    | married m => cases hl
    | separated o => cases hl
    | doghouse o => cases hl

def answerStored (q : Question) (s : Account) : q.Answer × Account :=
  match q with
  | .account .load => (.ok (some s), s)
  | .account (.save new) => (.ok (), new)
  | .party (.provider (.signCertificate ..)) => (.ok "renewed", s)
  | q => (silence q, s)

private theorem stored_answerStored (q : Question) (s : Account) :
    Stored s ⟨q, (answerStored q s).1⟩ (answerStored q s).2 := by
  cases q with
  | account call =>
    cases call with
    | load => exact ⟨rfl, rfl⟩
    | save new => exact .inl ⟨rfl, rfl⟩
  | ledger q => rfl
  | notice event => rfl
  | work duration => rfl
  | party q =>
    cases q with
    | provider request => cases request <;> rfl
    | _ => rfl

def adaKeys : Cohabiting := ⟨"ada@example.org", "u", "s", .zero, .zero, default⟩

/-- An attempt with an account that was dropped, and two with one that has its certificate renewed. -/
theorem stored_account_kept_renewed :
    (∃ s', History Stored ⟨{}, "a", "t"⟩ (.separated ⟨"e", "u"⟩)
        (attemptsIn answerStored ⟨{}, "a", "t"⟩ [⟨true⟩] (.separated ⟨"e", "u"⟩)) s' ∧ s' = .separated ⟨"e", "u"⟩) ∧
    (∀ m ∈ attemptsIn answerStored ⟨{}, "a", "t"⟩ [⟨true⟩] (.separated ⟨"e", "u"⟩), Passed m.moments ∧
      m.outcome = .cannotSync .separated .needsPassword) ∧
    (∃ s', History Stored ⟨{}, "a", "t"⟩ (.married ⟨adaKeys, "x"⟩)
        (attemptsIn answerStored ⟨{}, "a", "t"⟩ [⟨true⟩, ⟨false⟩] (.married ⟨adaKeys, "x"⟩)) s' ∧
      s'.email = "ada@example.org" ∧ credentials? s' = some adaKeys ∧ s' ≠ .married ⟨adaKeys, "x"⟩) ∧
    ∀ m ∈ attemptsIn answerStored ⟨{}, "a", "t"⟩ [⟨true⟩, ⟨false⟩] (.married ⟨adaKeys, "x"⟩), Passed m.moments := by
  have hdropped := history_attemptsIn stored_answerStored ⟨{}, "a", "t"⟩ [⟨true⟩] (.separated ⟨"e", "u"⟩)
  have hmarried := history_attemptsIn stored_answerStored ⟨{}, "a", "t"⟩ [⟨true⟩, ⟨false⟩] (.married ⟨adaKeys, "x"⟩)
  have hpassed : ∀ m ∈ attemptsIn answerStored ⟨{}, "a", "t"⟩ [⟨true⟩] (.separated ⟨"e", "u"⟩), Passed m.moments := by
    decide
  obtain ⟨hleft, hsaid⟩ := (stored_account_kept _ hdropped).2.1 (.inl rfl)
  refine ⟨⟨_, hdropped, hleft⟩, fun m hm => ⟨hpassed m hm, (hsaid m hm (hpassed m hm)).1⟩,
    ⟨_, hmarried, (stored_account_kept _ hmarried).1.1, ?_, by decide +kernel⟩, by decide +kernel⟩
  refine ((stored_account_kept _ hmarried).2.2 adaKeys rfl).2.resolve_right ?_
  have hlabel : (leftIn answerStored ⟨{}, "a", "t"⟩ [⟨true⟩, ⟨false⟩] (.married ⟨adaKeys, "x"⟩)).label = .married := by
    decide +kernel
  rintro (h | h)
  · cases hlabel.symm.trans h
  · cases hlabel.symm.trans h

end AccountSync.Attempt
