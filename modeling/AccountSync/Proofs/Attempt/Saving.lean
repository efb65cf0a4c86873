import AccountSync.Attempt.World
import AccountSync.Proofs.Attempt.Arrival

/-!
When an attempt saves the account. Main statement: `account_saved_once`, that it does so at most once, with
the state to keep and only if that is not the one it loaded, before the engine is started; and whether the store
takes the account or fails makes no difference to anyone else.
-/

set_option autoImplicit false
set_option relaxedAutoImplicit false

namespace AccountSync.Attempt

open Dialogue Login

def saved? : Exchange Question.Answer → Option Account
  | ⟨.account (.save a), _⟩ => some a
  | _ => none

def saves (xs : Exchanges) : List Account := xs.filterMap saved?

def refuses : Exchange Question.Answer → Bool
  | ⟨.party (.exchange ..), .ok response⟩ =>
    match response.result with
    | .ok _ => false
    | .error e => e.isInvalidAuthentication
  | _ => false

/-- The state that an attempt keeps after a login run: where that ended, but without a certificate that the token
server refused. -/
def kept (run : Login.Run) (xs : Exchanges) : Account :=
  match run.state with
  | .married m => if xs.any refuses then .cohabiting m.account else .married m
  | state => state

def Question.IsSave (q : Question) : Prop := ∃ a, q = .account (.save a)

/-- A question after which the account store is not asked again. -/
def Question.IsLast (q : Question) : Prop := q.IsSave ∨ ∃ session, q = .party (.startEngine session)

def Question.IsStore (q : Question) : Prop := q.part = .account

section Exchanges

variable {xs ys : Exchanges} {parts : List Part}

theorem saves_append : saves (xs ++ ys) = saves xs ++ saves ys := List.filterMap_append

private theorem part_of_saved? {x : Exchange Question.Answer} {a : Account} (h : saved? x = some a) :
    x.question.part = .account := by
  unfold saved? at h
  split at h
  · rfl
  · cases h

private theorem part_of_refuses {x : Exchange Question.Answer} (h : refuses x = true) : x.question.part = .token := by
  unfold refuses at h
  split at h
  · rfl
  · cases h

theorem saves_of_within (h : ∀ x ∈ xs, Within parts x.question) (hp : .account ∉ parts) : saves xs = [] :=
  untold_of_within part_of_saved? h hp

theorem saves_of_idle (h : Idle xs) : saves xs = [] := by
  refine List.filterMap_eq_nil_iff.mpr fun x hx => Option.eq_none_iff_forall_ne_some.mpr fun a ha => ?_
  rcases h x hx with hp | ⟨loaded, rfl, _⟩
  · rw [part_of_saved? ha] at hp
    cases hp
  · cases ha

theorem any_refuses_of_within (h : ∀ x ∈ xs, Within parts x.question) (hp : .token ∉ parts) :
    xs.any refuses = false := by
  refine List.any_eq_false.mpr fun x hx hr => hp ?_
  rw [← part_of_refuses hr]
  exact h x hx

end Exchanges

section Stages

variable {σ α : Type} {move : σ → Exchange Question.Answer → σ → Prop} {c : Client} {initial state : Account}
  {m : Married} {assertion : String} {response : TokenServer.Response} {forced : Bool} {s s' : σ}
  {ms : Moments σ} {parts : List Part} {r : SyncOutcome}

theorem saves_of_persist (h : Runs move s (persist initial state) ms () s') :
    saves (exchangesOf ms) = if state.same initial then [] else [state] := by
  unfold persist at h
  split at h
  · rename_i hsame
    obtain ⟨rfl, _, _⟩ := runs_pure_iff.mp h
    rw [if_pos hsame]
    rfl
  · rename_i hsame
    obtain ⟨xs, a, t, ys, hq, hp, rfl⟩ := runs_bind_iff.mp h
    obtain ⟨rfl, _, _⟩ := runs_pure_iff.mp hp
    obtain ⟨rfl, _⟩ := runs_question_iff.mp hq
    rw [if_neg hsame]
    rfl

def TokenFailure.isRejected : TokenFailure → Bool
  | .rejected _ => true
  | .outcome _ => false

private theorem isRejected_tokenFailure (e : SyncError) (delay : Option Nat) :
    (tokenFailure e delay).isRejected = e.isInvalidAuthentication := by
  unfold tokenFailure
  cases e.isInvalidAuthentication with
  | true => rfl
  | false => cases delay <;> rfl

def isRefusal : Except TokenFailure TokenServer.Token → Bool
  | .ok _ => false
  | .error failure => failure.isRejected

private theorem isRefusal_of_settle {a : Except TokenFailure TokenServer.Token}
    (h : Runs move s (settle c assertion response) ms a s') :
    refuses ⟨.party (.exchange assertion m.clientState), .ok response⟩ = isRefusal a := by
  rw [result_of_settle h]
  unfold refuses
  dsimp only
  cases response.result with
  | ok token => rfl
  | error e => exact (isRejected_tokenFailure e _).symm

theorem any_refuses_of_fetchToken {a : Except TokenFailure TokenServer.Token}
    (h : Runs move s (fetchToken c m) ms a s') : (exchangesOf ms).any refuses = isRefusal a := by
  cases exchanging_of_runs h with
  | unmade hnow _ => exact any_refuses_of_within (within_of_runs hnow (asks_books _)) (by decide)
  | unanswered hnow _ hdiagnose _ =>
    have hbooks := any_refuses_of_within (within_of_runs hnow (asks_books _)) (by decide)
    have hverify := any_refuses_of_within (within_of_runs hdiagnose (asks_diagnoseIf _ _ _)) (by decide)
    rw [exchangesOf_append, exchangesOf_append, List.any_append, List.any_append, hbooks, hverify]
    rfl
  | answered hnow _ hdiagnose _ hsettle =>
    have hbooks := any_refuses_of_within (within_of_runs hnow (asks_books _)) (by decide)
    have hverify := any_refuses_of_within (within_of_runs hdiagnose (asks_diagnoseIf _ _ _)) (by decide)
    have hnote := any_refuses_of_within (within_of_runs hsettle (asks_settle _ _ _)) (by decide)
    rw [exchangesOf_append, exchangesOf_append, exchangesOf_cons, List.any_append, List.any_append, List.any_cons,
      hbooks, hverify, hnote, isRefusal_of_settle hsettle, Bool.false_or, Bool.false_or, Bool.or_false]

private theorem saves_of_syncMarried (h : Runs move s (syncMarried c initial m forced) ms r s') {run : Login.Run}
    (hm : run.state = .married m) : saves (exchangesOf ms) =
      if (kept run (exchangesOf ms)).same initial then [] else [kept run (exchangesOf ms)] := by
  unfold kept
  rw [hm]
  cases trading_of_runs h with
  | accepted hfetch hpersist hclear hstorage =>
    have hquiet := saves_of_within (within_of_runs hfetch (asks_fetchToken c m)) (by decide)
    have hquiet' := saves_of_within (within_of_runs hclear (asks_notice _)) (by decide)
    have hquiet'' := saves_of_within (within_of_runs hstorage (asks_syncStorage c m _ forced)) (by decide)
    have hstore := any_refuses_of_within (within_of_runs hpersist (asks_persist _ _)) (by decide)
    have hnotice := any_refuses_of_within (within_of_runs hclear (asks_notice _)) (by decide)
    have hengine := any_refuses_of_within (within_of_runs hstorage (asks_syncStorage c m _ forced)) (by decide)
    simp only [exchangesOf_append, saves_append, List.any_append, hquiet, hquiet', hquiet'', hstore, hnotice, hengine,
      any_refuses_of_fetchToken hfetch, saves_of_persist hpersist, List.nil_append, List.append_nil]
    rfl
  | rejected hfetch hpersist hnotice =>
    have hquiet := saves_of_within (within_of_runs hfetch (asks_fetchToken c m)) (by decide)
    have hquiet' := saves_of_within (within_of_runs hnotice (asks_notice _)) (by decide)
    simp only [exchangesOf_append, saves_append, List.any_append, hquiet, hquiet', any_refuses_of_fetchToken hfetch,
      saves_of_persist hpersist, List.nil_append, List.append_nil]
    rfl
  | failed hfetch hpersist =>
    have hquiet := saves_of_within (within_of_runs hfetch (asks_fetchToken c m)) (by decide)
    have hstore := any_refuses_of_within (within_of_runs hpersist (asks_persist _ _)) (by decide)
    simp only [exchangesOf_append, saves_append, List.any_append, hquiet, hstore, any_refuses_of_fetchToken hfetch,
      saves_of_persist hpersist, List.nil_append]
    rfl

theorem kept_of_not_married {run : Login.Run} (hn : ∀ m, run.state ≠ .married m) (xs : Exchanges) :
    kept run xs = run.state := by
  unfold kept
  split
  · rename_i m hm
    exact (hn m hm).elim
  · rfl

/-- Login saves nothing and refuses no credentials, so what follows it decides. -/
theorem kept_append {run : Login.Run} {xs ys : Exchanges} (h : xs.any refuses = false) :
    kept run (xs ++ ys) = kept run ys := by
  unfold kept
  rw [List.any_append, h, Bool.false_or]

private theorem saves_of_syncAccount (h : Runs move s (syncAccount c initial forced) ms r s') :
    ∃ run xs ys t, Runs move s (login (bring c initial)) xs run t ∧ ms = xs ++ ys ∧
      saves (exchangesOf ms) =
        if (kept run (exchangesOf ms)).same initial then [] else [kept run (exchangesOf ms)] := by
  cases syncing_of_runs h with
  | @married _ _ xs ys run m _ hlogin hm hsync =>
    refine ⟨run, xs, ys, _, hlogin, rfl, ?_⟩
    have hwithin := within_of_runs hlogin asks_login
    rw [exchangesOf_append, saves_append, saves_of_within hwithin (by decide),
      kept_append (any_refuses_of_within hwithin (by decide)), List.nil_append]
    exact saves_of_syncMarried hsync hm
  | @short _ _ _ _ xs ys zs us run _ hlogin hn hinterval hpersist hnot =>
    refine ⟨run, xs, ys ++ (zs ++ us), _, hlogin, rfl, ?_⟩
    have hquiet := saves_of_within (within_of_runs hlogin asks_login) (by decide)
    have hquiet' := saves_of_within (within_of_runs hinterval (asks_requestInterval _)) (by decide)
    have hquiet'' := saves_of_within (within_of_runs hnot (asks_notMarried _)) (by decide)
    rw [kept_of_not_married hn]
    simp only [exchangesOf_append, saves_append, hquiet, hquiet', hquiet'', saves_of_persist hpersist, List.nil_append,
      List.append_nil]

theorem saves_of_run {extras : SyncExtras} (h : Runs move s (AccountSync.Attempt.run c extras) ms r s') :
    Idle (exchangesOf ms) ∨ ∃ initial ls run, LoggedIn c initial ls run (exchangesOf ms) ∧
      saves (exchangesOf ms) =
        if (kept run (exchangesOf ms)).same initial then [] else [kept run (exchangesOf ms)] := by
  cases arriving_of_runs h with
  | idle hidle => exact .inl hidle
  | @loaded _ _ _ xs ys initial _ hopen _ hsync =>
    obtain ⟨run, us, vs, u, hlogin, rfl, hsaves⟩ := saves_of_syncAccount hsync
    obtain ⟨ls, hl⟩ := exists_loggedIn hopen hlogin vs
    have hopening := within_of_runs hopen (asks_opening c extras.forced)
    have hnone : saves (exchangesOf xs) = [] := saves_of_within hopening (by decide)
    refine .inr ⟨initial, ls, run, hl, ?_⟩
    rw [exchangesOf_append, exchangesOf_cons, List.append_cons,
      kept_append (any_refuses_of_within (within_to_load hopen initial) (by decide)), ← hsaves, saves_append,
      saves_append, hnone]
    rfl

/-- The account with another key pair, if it has one. -/
def withKeyPair : Account → Option KeyPair → Account
  | .cohabiting k, some pair => .cohabiting { k with keyPair := pair }
  | .married m, some pair => .married { m with account := { m.account with keyPair := pair } }
  | a, _ => a

private theorem withKeyPair_shown (a : Account) : withKeyPair a.shown.1 a.keyPair? = a := by
  cases a <;> rfl

private theorem label_shown (a : Account) : a.shown.1.label = a.label := by
  cases a <;> rfl

private theorem keyPair?_eq (a : Account) : a.keyPair? = (credentials? a).map Cohabiting.keyPair := by
  cases a <;> rfl

private theorem isSome_credentials? (a : Account) :
    (credentials? a).isSome = decide (a.label = .cohabiting ∨ a.label = .married) := by
  cases a <;> rfl

/-- What others see of two states is the same only if the states are, where the key pair is kept. -/
theorem same_iff_of_keeps (h : Keeps initial state) : state.same initial = true ↔ state = initial := by
  constructor
  · intro hs
    have hshown : state.shown = initial.shown := of_decide_eq_true hs
    have hlabel : state.label = initial.label := by
      rw [← label_shown state, hshown, label_shown]
    -- The key pair is not shown, but it cannot change as long as the account has one.
    have hpair : credentials? state = credentials? initial := by
      cases hc : credentials? initial with
      | none =>
        have hsome := isSome_credentials? state
        rw [hlabel, ← isSome_credentials?, hc] at hsome
        exact Option.isNone_iff_eq_none.mp (Option.isSome_eq_false_iff.mp hsome)
      | some k =>
        rcases h.credentials k hc with hk | hd
        · exact hk
        · have hdrop : Dropped initial := by
            rwa [Dropped, hlabel] at hd
          exact h.dropped hdrop ▸ hc
    rw [← withKeyPair_shown state, ← withKeyPair_shown initial, hshown, keyPair?_eq, keyPair?_eq, hpair]
  · rintro rfl
    exact decide_eq_true rfl

private theorem keeps_kept {maxSteps duration : Nat} {target : StateLabel} {ls : Login.Exchanges} {run : Login.Run}
    (h : Course (advance maxSteps duration initial target) ls run) (xs : Exchanges) : Keeps initial (kept run xs) := by
  have hk := keeps_of_advance h
  unfold kept
  split
  · rename_i m hm
    rw [hm] at hk
    split
    · exact hk.trans (keeps_cohabiting m)
    · exact hk
  · exact hk

end Stages

section Order

variable {α : Type} {parts : List Part} {d : Talk α}

private theorem not_last_of_within (hd : d.Asks (Within parts)) (ha : .account ∉ parts) (he : .engine ∉ parts) :
    d.Asks fun q => ¬ q.IsLast := by
  refine hd.mono fun q hq => ?_
  rintro (⟨a, rfl⟩ | ⟨session, rfl⟩)
  · exact ha hq
  · exact he hq

private theorem not_store_of_within (hd : d.Asks (Within parts)) (ha : .account ∉ parts) :
    d.Asks fun q => ¬ q.IsStore := by
  refine hd.mono fun q hq hs => ha ?_
  rw [← hs]
  exact hq

private theorem closes_of_within (hd : d.Asks (Within parts)) (ha : .account ∉ parts) :
    d.Closes Question.IsLast Question.IsStore :=
  closes_of_unasked (not_store_of_within hd ha)

private theorem closes_persist (initial state : Account) :
    (persist initial state).Closes Question.IsLast Question.IsStore := by
  unfold persist
  split
  · trivial
  · exact closes_bind_right closes_question (fun _ => trivial) fun _ => trivial

private theorem closes_persist_bind {initial state : Account} {f : Unit → Talk α} (hf : (f ()).Asks (Within parts))
    (ha : .account ∉ parts) : (persist initial state >>= f).Closes Question.IsLast Question.IsStore :=
  closes_bind_right (closes_persist initial state) (fun _ => not_store_of_within hf ha) fun _ =>
    closes_of_within hf ha

private theorem closes_syncMarried (c : Client) (initial : Account) (m : Married) (forced : Bool) :
    (syncMarried c initial m forced).Closes Question.IsLast Question.IsStore := by
  have hfetch := not_last_of_within (asks_fetchToken c m) (by decide) (by decide)
  refine closes_bind_left hfetch fun fetched => ?_
  cases fetched with
  | ok token =>
    have hrest : (do notice .clear; syncStorage c m token forced).Asks (Within [.ledger, .engine, .host, .user]) :=
      asks_bind (asks_within_mono (asks_notice _) (by decide)) fun _ => asks_syncStorage c m token forced
    exact closes_persist_bind hrest (by decide)
  | error failure =>
    cases failure with
    | rejected reason =>
      have hrest : (do
          notice (.notify m.account.email .cohabiting .needsPassword)
          pure (.unrecoverable reason) : Talk SyncOutcome).Asks (Within [.user]) :=
        asks_bind (asks_notice _) fun _ => trivial
      exact closes_persist_bind hrest (by decide)
    | outcome outcome =>
      have hrest : (pure outcome : Talk SyncOutcome).Asks (Within []) := trivial
      exact closes_persist_bind hrest (by decide)

private theorem closes_syncAccount (c : Client) (initial : Account) (forced : Bool) :
    (syncAccount c initial forced).Closes Question.IsLast Question.IsStore := by
  have hlogin := not_last_of_within (asks_login (t := bring c initial)) (by decide) (by decide)
  refine closes_bind_left hlogin fun run => ?_
  have hinterval := not_last_of_within
    (asks_requestInterval (Schedule.afterLogin c.config run.state.neededAction)) (by decide) (by decide)
  refine closes_bind_left hinterval fun _ => ?_
  split
  · exact closes_syncMarried c initial _ forced
  · exact closes_persist_bind (asks_notMarried run) (by decide)

/-- Once an attempt has saved the account or started the engine it does not ask the store again. -/
theorem closes_run (c : Client) (extras : SyncExtras) :
    (run c extras).Closes Question.IsLast Question.IsStore := by
  have hgate := not_last_of_within (asks_gate .scheduler extras.forced) (by decide) (by decide)
  refine closes_bind_left hgate fun first => ?_
  cases first with
  | some outcome => trivial
  | none =>
    have hgate' := not_last_of_within (asks_gate .tokenServer extras.forced) (by decide) (by decide)
    refine closes_bind_left hgate' fun second => ?_
    cases second with
    | some outcome => trivial
    | none =>
      have hkept := not_last_of_within (asks_books (Schedule.beforeSyncing c.config)) (by decide) (by decide)
      refine closes_bind_left hkept fun _ => closes_bind_left ?_ fun loaded => ?_
      · refine asks_question.mpr ?_
        rintro (⟨a, ha⟩ | ⟨session, hs⟩)
        · cases ha
        · cases hs
      · cases loaded with
        | error e => trivial
        | ok found =>
          cases found with
          | none => trivial
          | some initial => exact closes_syncAccount c initial extras.forced

private theorem ignores_of_within (hd : d.Asks (Within parts)) (ha : .account ∉ parts) : d.Ignores Question.IsSave := by
  refine ignores_of_asks (hd.mono fun q hq => ?_)
  rintro ⟨a, rfl⟩
  exact ha hq

private theorem ignores_persist (initial state : Account) : (persist initial state).Ignores Question.IsSave := by
  unfold persist
  split
  · trivial
  · exact ⟨fun _ _ _ => rfl, fun _ => trivial⟩

private theorem ignores_syncMarried (c : Client) (initial : Account) (m : Married) (forced : Bool) :
    (syncMarried c initial m forced).Ignores Question.IsSave := by
  refine ignores_bind (ignores_of_within (asks_fetchToken c m) (by decide)) fun fetched => ?_
  cases fetched with
  | ok token =>
    refine ignores_bind (ignores_persist _ _) fun _ => ?_
    refine ignores_bind (ignores_of_within (asks_notice _) (by decide)) fun _ => ?_
    exact ignores_of_within (asks_syncStorage c m token forced) (by decide)
  | error failure =>
    cases failure with
    | rejected reason =>
      refine ignores_bind (ignores_persist _ _) fun _ => ?_
      exact ignores_bind (ignores_of_within (asks_notice _) (by decide)) fun _ => trivial
    | outcome outcome => exact ignores_bind (ignores_persist _ _) fun _ => trivial

/-- Whether the account could be saved makes no difference to an attempt. -/
theorem ignores_run (c : Client) (extras : SyncExtras) : (run c extras).Ignores Question.IsSave := by
  refine ignores_bind (ignores_of_within (asks_gate _ _) (by decide)) fun first => ?_
  cases first with
  | some outcome => trivial
  | none =>
    refine ignores_bind (ignores_of_within (asks_gate _ _) (by decide)) fun second => ?_
    cases second with
    | some outcome => trivial
    | none =>
      refine ignores_bind (ignores_of_within (asks_books _) (by decide)) fun _ => ignores_bind ?_ fun loaded => ?_
      · refine ignores_of_asks (asks_question.mpr ?_)
        rintro ⟨a, ha⟩
        cases ha
      · cases loaded with
        | error e => trivial
        | ok found =>
          cases found with
          | none => trivial
          | some initial =>
            refine ignores_bind (ignores_of_within asks_login (by decide)) fun run => ?_
            refine ignores_bind (ignores_of_within (asks_requestInterval _) (by decide)) fun _ => ?_
            split
            · exact ignores_syncMarried c initial _ extras.forced
            · refine ignores_bind (ignores_persist _ _) fun _ => ?_
              exact ignores_of_within (asks_notMarried run) (by decide)

end Order

section Surroundings

variable {σ α : Type} {others : Others σ} {w w' : World σ} {q : Question} {d : Talk α}

/-- Two worlds that differ at most in their account stores. -/
def Alike (w w' : World σ) : Prop := w.ledger = w'.ledger ∧ w.said = w'.said ∧ w.others = w'.others

/-- The world with a store that fails to save, or does not. -/
def World.failing (w : World σ) (fault : Option String) : World σ :=
  { w with accounts := { w.accounts with saveFault := fault } }

private theorem alike_failing (w : World σ) (fault : Option String) : Alike (w.failing fault) w := ⟨rfl, rfl, rfl⟩

private theorem alike_answer (others : Others σ) (hq : ¬ q.IsStore) (h : Alike w w') :
    (World.answer others q w).1 = (World.answer others q w').1 ∧
      Alike (World.answer others q w).2 (World.answer others q w').2 := by
  obtain ⟨ledger, accounts, said, inner⟩ := w
  obtain ⟨ledger', accounts', said', inner'⟩ := w'
  obtain ⟨rfl, rfl, rfl⟩ := h
  cases q with
  | account call => exact (hq rfl).elim
  | ledger q => exact ⟨rfl, rfl, rfl, rfl⟩
  | notice event => exact ⟨rfl, rfl, rfl, rfl⟩
  | work duration => exact ⟨rfl, rfl, rfl, rfl⟩
  | party q => exact ⟨rfl, rfl, rfl, rfl⟩

private theorem run_of_alike (others : Others σ) (hd : d.Asks fun q => ¬ q.IsStore) (h : Alike w w') :
    (d.run (World.answer others) w).1 = (d.run (World.answer others) w').1 ∧
      Alike (d.run (World.answer others) w).2 (d.run (World.answer others) w').2 ∧
      d.exchanges (World.answer others) w = d.exchanges (World.answer others) w' := by
  induction d generalizing w w' with
  | done a => exact ⟨rfl, h, rfl⟩
  | ask q next ih =>
    obtain ⟨ha, hw⟩ := alike_answer others hd.1 h
    have hn := ih (World.answer others q w).1 (hd.2 _) hw
    rw [Dialogue.run, Dialogue.run, Dialogue.exchanges, Dialogue.exchanges, ← ha]
    exact ⟨hn.1, hn.2.1, congrArg _ hn.2.2⟩

private theorem answer_failing (hq : ¬ q.IsSave) (w : World σ) (fault : Option String) :
    World.answer others q (w.failing fault) =
      ((World.answer others q w).1, (World.answer others q w).2.failing fault) := by
  cases q with
  | account call =>
    cases call with
    | load =>
      unfold World.answer World.failing AccountStore.Memory.answer
      cases hf : w.accounts.loadFault <;> simp [hf]
    | save a => exact (hq ⟨a, rfl⟩).elim
  | ledger q => rfl
  | notice event => rfl
  | work duration => rfl
  | party q => rfl

/-- What passes over the answer to a save, and closes the store with it, goes the same way whether the store
fails to save or not. -/
theorem run_failing (hc : d.Closes Question.IsLast Question.IsStore) (hi : d.Ignores Question.IsSave) (w : World σ)
    (fault : Option String) :
    (d.run (World.answer others) (w.failing fault)).1 = (d.run (World.answer others) w).1 ∧
      Alike (d.run (World.answer others) (w.failing fault)).2 (d.run (World.answer others) w).2 ∧
      List.Forall₂ (Agree Question.IsSave) (d.exchanges (World.answer others) (w.failing fault))
        (d.exchanges (World.answer others) w) := by
  induction d generalizing w with
  | done a => exact ⟨rfl, alike_failing w fault, .nil⟩
  | ask q next ih =>
    rw [Dialogue.run, Dialogue.run, Dialogue.exchanges, Dialogue.exchanges]
    -- Up to the save the fault is not met, and from then on the store is not asked.
    by_cases hq : q.IsSave
    · have hnext := hi.1 hq (World.answer others q (w.failing fault)).1 (World.answer others q w).1
      have hclosed := hc.1 (.inl hq) (World.answer others q w).1
      have hw : Alike (World.answer others q (w.failing fault)).2 (World.answer others q w).2 := by
        obtain ⟨a, rfl⟩ := hq
        exact ⟨rfl, rfl, rfl⟩
      obtain ⟨hr, hs, hx⟩ := run_of_alike others hclosed hw
      rw [hnext, hx]
      exact ⟨hr, hs, .cons ⟨rfl, .inl hq⟩ (List.forall₂_same.mpr fun x _ => ⟨rfl, .inr rfl⟩)⟩
    · rw [answer_failing hq]
      obtain ⟨hr, hs, hx⟩ := ih (World.answer others q w).1 (hc.2 _) (hi.2 _) (World.answer others q w).2
      exact ⟨hr, hs, .cons ⟨rfl, .inr rfl⟩ hx⟩

end Surroundings

/-- An attempt saves the account at most once: the state to keep after its login run, if that is not the state that
it loaded, and never after the engine was started. Whether that fails or not, the attempt comes to the same, and all
others are asked the same and left in the same state. -/
theorem account_saved_once (c : Client) (extras : SyncExtras) {xs : Exchanges} {r : SyncOutcome}
    (h : Course (run c extras) xs r) :
    (saves xs).length ≤ 1 ∧
    (∀ a, a ∈ saves xs ↔ ∃ initial ls run, LoggedIn c initial ls run xs ∧ a = kept run xs ∧ a ≠ initial) ∧
    (∀ before session plan after, xs = before ++ ⟨.party (.startEngine session), plan⟩ :: after →
      saves after = []) ∧
    (∀ ys, List.Forall₂ (Agree Question.IsSave) xs ys → Course (run c extras) ys r) ∧
    ∀ (σ : Type) (others : Others σ) (w : World σ) (fault : Option String),
      ((run c extras).run (World.answer others) (w.failing fault)).1 = ((run c extras).run (World.answer others) w).1 ∧
      Alike ((run c extras).run (World.answer others) (w.failing fault)).2
        ((run c extras).run (World.answer others) w).2 ∧
      List.Forall₂ (Agree Question.IsSave) ((run c extras).exchanges (World.answer others) (w.failing fault))
        ((run c extras).exchanges (World.answer others) w) := by
  obtain ⟨ms, rfl, hr⟩ := runs_of_course h
  have hsaves := saves_of_run hr
  refine ⟨?_, ?_, ?_, ?_, ?_⟩
  · rcases hsaves with hidle | ⟨initial, ls, run, _, hs⟩
    · rw [saves_of_idle hidle]
      exact Nat.zero_le 1
    · rw [hs]
      split <;> simp
  · intro a
    rcases hsaves with hidle | ⟨initial, ls, run, hl, hs⟩
    · rw [saves_of_idle hidle]
      refine iff_of_false List.not_mem_nil ?_
      rintro ⟨initial, ls, run, hl, _⟩
      exact not_loaded_of_idle hidle hl.loaded
    · have hsame := same_iff_of_keeps (keeps_kept hl.course (exchangesOf ms))
      rw [hs]
      constructor
      · intro ha
        split at ha
        · cases ha
        · rename_i hne
          obtain rfl := List.mem_singleton.mp ha
          exact ⟨initial, ls, run, hl, rfl, fun he => hne (hsame.mpr he)⟩
      · rintro ⟨initial', ls', run', hl', rfl, hne⟩
        obtain ⟨rfl, _, rfl⟩ := hl.unique hl'
        rw [if_neg fun he => hne (hsame.mp he)]
        exact List.mem_singleton_self _
  · intro before session plan after hsplit
    rw [hsplit] at h
    have hafter := (closes_run c extras).of_course h (.inr ⟨session, rfl⟩)
    refine List.filterMap_eq_nil_iff.mpr fun x hx => Option.eq_none_iff_forall_ne_some.mpr fun a ha => ?_
    exact hafter x hx (part_of_saved? ha)
  · intro ys hys
    exact course_of_agree (ignores_run c extras) h hys
  · intro σ others w fault
    exact run_failing (closes_run c extras) (ignores_run c extras) w fault

/-- A store that has an account, and a provider that has ended its session. -/
def answerEnded (q : Question) (s : Unit) : q.Answer × Unit :=
  match q with
  | .account .load => (.ok (some (.engaged ⟨"ada@example.org", "u", true, "s", "f", .zero⟩)), s)
  | .party (.provider _) => (.error (.remote 401 0 "gone"), s)
  | q => (silence q, s)

theorem account_saved_once_separated :
    ∃ xs r, Course (run ⟨{}, "a", "t"⟩ ⟨true⟩) xs r ∧ saves xs = [.separated ⟨"ada@example.org", "u"⟩] ∧
      ∃ initial ls run, LoggedIn ⟨{}, "a", "t"⟩ initial ls run xs ∧
        kept run xs = .separated ⟨"ada@example.org", "u"⟩ ∧ kept run xs ≠ initial := by
  have hc := course_run answerEnded (run ⟨{}, "a", "t"⟩ ⟨true⟩) ()
  have hs : saves ((run ⟨{}, "a", "t"⟩ ⟨true⟩).exchanges answerEnded ()) =
      [.separated ⟨"ada@example.org", "u"⟩] := by decide
  obtain ⟨initial, ls, run, hl, ha, hne⟩ :=
    ((account_saved_once _ _ hc).2.1 (.separated ⟨"ada@example.org", "u"⟩)).mp (hs ▸ List.mem_singleton_self _)
  exact ⟨_, _, hc, hs, initial, ls, run, hl, ha.symm, ha ▸ hne⟩

end AccountSync.Attempt
