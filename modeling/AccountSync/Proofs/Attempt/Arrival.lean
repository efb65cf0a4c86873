import AccountSync.Proofs.Attempt.History
import AccountSync.Proofs.Dialogue.Order
import AccountSync.Proofs.Login.Custody

/-!
How far an attempt comes. Either it loads no account, and then nobody but the ledger and the store has been
asked (`Idle`), or it loads one and its login run comes to something (`LoggedIn`), which the exchanges tell in
one way only (`LoggedIn.unique`).
-/

set_option autoImplicit false
set_option relaxedAutoImplicit false

namespace AccountSync.Attempt

open Dialogue

/-- No account was loaded, and nobody asked about one. -/
def Idle (xs : Exchanges) : Prop :=
  ∀ x ∈ xs, x.question.part = .ledger ∨ ∃ a, x = ⟨.account .load, a⟩ ∧ ∀ initial, a ≠ .ok (some initial)

/-- An account was loaded, and a login run from it, with these exchanges of its own, came to something. -/
inductive LoggedIn (c : Client) (initial : Account) (ls : Login.Exchanges) (run : Login.Run) : Exchanges → Prop
  | intro {before during after : Exchanges} : (∀ x ∈ before, x.question.part = .ledger) →
      Course (bring c initial) ls run → Translated ofLogin ls during →
      LoggedIn c initial ls run (before ++ ⟨.account .load, .ok (some initial)⟩ :: (during ++ after))

variable {c : Client} {initial initial' : Account} {ls ls' : Login.Exchanges} {run run' : Login.Run}
  {xs : Exchanges}

theorem LoggedIn.loaded (h : LoggedIn c initial ls run xs) : ⟨.account .load, .ok (some initial)⟩ ∈ xs := by
  cases h with
  | intro _ _ _ => exact List.mem_append_right _ List.mem_cons_self

theorem LoggedIn.course (h : LoggedIn c initial ls run xs) : Course (bring c initial) ls run := by
  cases h with
  | intro _ hc _ => exact hc

theorem not_loaded_of_idle (h : Idle xs) : ⟨.account .load, .ok (some initial)⟩ ∉ xs := by
  intro hx
  rcases h _ hx with hp | ⟨a, ha, hne⟩
  · cases hp
  · cases ha
    exact hne initial rfl

theorem within_of_idle (h : Idle xs) : ∀ x ∈ xs, Within [.ledger, .account] x.question := by
  intro x hx
  rcases h x hx with hp | ⟨a, rfl, _⟩
  · exact List.mem_cons.mpr (.inl hp)
  · exact List.mem_cons_of_mem _ List.mem_cons_self

/-- Only the ledger is asked before an account is loaded, so what was asked tells where that was. -/
theorem split_at_load {before before' after after' : Exchanges} {a a' : Except SyncError (Option Account)}
    (hb : ∀ x ∈ before, x.question.part = .ledger) (hb' : ∀ x ∈ before', x.question.part = .ledger)
    (he : before ++ ⟨.account .load, a⟩ :: after = before' ++ ⟨.account .load, a'⟩ :: after') :
    a = a' ∧ after = after' := by
  -- All that stands before the load is the ledger's, so dropping that leaves the load and what follows it.
  have htail : ∀ {bs zs : Exchanges} {r : Except SyncError (Option Account)},
      (∀ x ∈ bs, x.question.part = .ledger) →
      (bs ++ ⟨.account .load, r⟩ :: zs).dropWhile (fun x => decide (x.question.part = .ledger)) =
        ⟨.account .load, r⟩ :: zs := by
    intro bs zs r hbs
    rw [List.dropWhile_append_of_pos fun x hx => decide_eq_true (hbs x hx)]
    rfl
  have hrest := congrArg (List.dropWhile fun x => decide (x.question.part = .ledger)) he
  rw [htail hb, htail hb'] at hrest
  cases hrest
  exact ⟨rfl, rfl⟩

/-- The exchanges of an attempt tell what was loaded and how login went. -/
theorem LoggedIn.unique (h : LoggedIn c initial ls run xs) (h' : LoggedIn c initial' ls' run' xs) :
    initial = initial' ∧ ls = ls' ∧ run = run' := by
  obtain ⟨hb, hc, ht⟩ := h
  generalize hxs : (_ : Exchanges) ++ _ :: _ = xs at h'
  obtain ⟨hb', hc', ht'⟩ := h'
  obtain ⟨hload, hrest⟩ := split_at_load hb hb' hxs
  cases hload
  obtain ⟨hls, hrun, _⟩ := translated_unique hc hc' ht ht' hrest
  exact ⟨rfl, hls, hrun⟩

variable {σ : Type} {move : σ → Exchange Question.Answer → σ → Prop} {s s' : σ} {ms : Moments σ}
  {extras : SyncExtras} {forced : Bool} {r : SyncOutcome}

/-- What an attempt does before it loads the account. -/
def opening (c : Client) (forced : Bool) : Talk Unit := do
  let _ ← gate .scheduler forced
  let _ ← gate .tokenServer forced
  let _ ← books (Schedule.beforeSyncing c.config)
  pure ()

theorem asks_opening (c : Client) (forced : Bool) : (opening c forced).Asks (Within [.ledger]) :=
  asks_bind (asks_gate _ _) fun _ => asks_bind (asks_gate _ _) fun _ => asks_bind (asks_books _) fun _ => trivial

private theorem ledger_of_opening {forced : Bool} (h : Runs move s (opening c forced) ms () s') :
    ∀ x ∈ exchangesOf ms, x.question.part = .ledger :=
  fun x hx => List.mem_singleton.mp ((asks_opening c forced).of_course h.1 x hx)

theorem within_to_load (h : Runs move s (opening c forced) ms () s') (initial : Account) :
    ∀ x ∈ exchangesOf ms ++ [⟨.account .load, .ok (some initial)⟩], Within [.ledger, .account] x.question := by
  intro x hx
  rcases List.mem_append.mp hx with hx | hx
  · exact List.mem_cons.mpr (.inl (ledger_of_opening h x hx))
  · obtain rfl := List.mem_singleton.mp hx
    exact List.mem_cons_of_mem _ List.mem_cons_self

/-- The ways of an attempt: it is idle, or it goes on with the account that it loaded. -/
inductive Arriving (move : σ → Exchange Question.Answer → σ → Prop) (c : Client) (forced : Bool) :
    σ → Moments σ → SyncOutcome → σ → Prop
  | idle {s s' : σ} {ms : Moments σ} {r : SyncOutcome} : Idle (exchangesOf ms) → Arriving move c forced s ms r s'
  | loaded {s t u s' : σ} {xs ys : Moments σ} {initial : Account} {r : SyncOutcome} :
      Runs move s (opening c forced) xs () t → move t ⟨.account .load, .ok (some initial)⟩ u →
      Runs move u (syncAccount c initial forced) ys r s' →
      Arriving move c forced s (xs ++ ⟨⟨.account .load, .ok (some initial)⟩, u⟩ :: ys) r s'

private theorem idle_of_confined (h : Confined [.ledger] ms) : Idle (exchangesOf ms) := by
  intro x hx
  obtain ⟨m, hm, rfl⟩ := List.mem_map.mp hx
  exact .inl (List.mem_singleton.mp (h m hm))

private theorem idle_of_load {a : Except SyncError (Option Account)} (h : Confined [.ledger] ms)
    (ha : ∀ initial, a ≠ .ok (some initial)) (t : σ) : Idle (exchangesOf (ms ++ [⟨⟨.account .load, a⟩, t⟩])) := by
  intro x hx
  rw [exchangesOf_append] at hx
  rcases List.mem_append.mp hx with hx | hx
  · exact idle_of_confined h x hx
  · exact .inr ⟨a, List.mem_singleton.mp hx, ha⟩

private theorem runs_opening {t u v : σ} {xs ys zs : Moments σ} {kept : Except SyncError Instant}
    (hfirst : Runs move s (gate .scheduler forced) xs none t)
    (hsecond : Runs move t (gate .tokenServer forced) ys none u)
    (hkept : Runs move u (books (Schedule.beforeSyncing c.config)) zs kept v) :
    Runs move s (opening c forced) (xs ++ (ys ++ zs)) () v := by
  have hlast : Runs move u (do let _ ← books (Schedule.beforeSyncing c.config); pure ()) zs () v :=
    runs_bind_iff.mpr ⟨zs, kept, v, [], hkept, runs_pure_iff.mpr ⟨rfl, rfl, rfl⟩, (List.append_nil zs).symm⟩
  exact runs_bind_iff.mpr ⟨xs, none, t, _, hfirst, runs_bind_iff.mpr ⟨ys, none, u, _, hsecond, hlast, rfl⟩, rfl⟩

theorem arriving_of_runs (h : Runs move s (AccountSync.Attempt.run c extras) ms r s') :
    Arriving move c extras.forced s ms r s' := by
  cases attempting_of_runs h with
  | early hfirst => exact .idle (idle_of_confined (confined_of_runs (asks_gate _ _) hfirst))
  | deferred hfirst hsecond =>
    have hgate := confined_of_runs (asks_gate _ _) hfirst
    have hgate' := confined_of_runs (asks_gate _ _) hsecond
    exact .idle (idle_of_confined (confined_append.mpr ⟨hgate, hgate'⟩))
  | @proceeds _ _ _ xs ys zs _ hfirst hsecond hproceed =>
    cases proceeding_of_runs hproceed with
    | failed hkept _ =>
      have hledger := confined_of_runs (asks_opening _ _) (runs_opening hfirst hsecond hkept)
      rw [← List.append_assoc ys, ← List.append_assoc xs]
      refine .idle (idle_of_load hledger ?_ s')
      exact nofun
    | missing hkept _ =>
      have hledger := confined_of_runs (asks_opening _ _) (runs_opening hfirst hsecond hkept)
      rw [← List.append_assoc ys, ← List.append_assoc xs]
      refine .idle (idle_of_load hledger ?_ s')
      exact nofun
    | loaded hkept hload hsync =>
      rw [← List.append_assoc ys, ← List.append_assoc xs]
      exact .loaded (runs_opening hfirst hsecond hkept) hload hsync

theorem exists_loggedIn {t u v : σ} {xs ys : Moments σ} (hopen : Runs move s (opening c forced) xs () t)
    (hlogin : Runs move u (login (bring c initial)) ys run v) (zs : Moments σ) :
    ∃ ls, LoggedIn c initial ls run
      (exchangesOf (xs ++ ⟨⟨.account .load, .ok (some initial)⟩, u⟩ :: (ys ++ zs))) := by
  obtain ⟨ls, hc, ht⟩ := course_translate_iff.mp hlogin.1
  rw [exchangesOf_append, exchangesOf_cons, exchangesOf_append]
  exact ⟨ls, .intro (ledger_of_opening hopen) hc ht⟩

end AccountSync.Attempt
