import AccountSync.Proofs.Ledger.Standing
import AccountSync.Storage.Session

/-!
What a storage session does to the ledger. A delay that an engine reports, or that is found in a response it
has seen, is in the scheduler's deadline once the session has answered; no deadline is taken back.
-/

set_option autoImplicit false
set_option relaxedAutoImplicit false

namespace AccountSync.Storage.Session

open Dialogue Ledger

variable {x : Session} {s s' : State} {ms : Moments} {delay : Nat} {status : UInt16} {headers : Http.Headers}

theorem advances_shouldBackOff (x : Session) : Advances x.shouldBackOff :=
  advances_bind (advances_mayProceed _ _) fun _ => advances_pure _

theorem advances_requestBackoff (x : Session) (delay : Nat) : Advances (x.requestBackoff delay) := by
  refine advances_bind (advances_extend _ _) fun kept => ?_
  cases kept with
  | error e => exact advances_pure _
  | ok _ => exact advances_bind (advances_extend _ _) fun _ => advances_pure _

theorem advances_observeClock (x : Session) (headers : Http.Headers) : Advances (x.observeClock headers) := by
  unfold Session.observeClock
  cases headers.serverTimestamp? with
  | none => exact advances_pure _
  | some server => exact advances_bind (Ledger.advances_observeClock _ _) fun _ => advances_pure _

theorem advances_observe (x : Session) (status : UInt16) (headers : Http.Headers) :
    Advances (x.observe status headers) := by
  refine advances_bind (advances_observeClock x headers) fun _ => advances_bind advances_now fun now => ?_
  cases (headers.backoffSignal status now).delay? with
  | none => exact advances_pure _
  | some delay => exact advances_bind (advances_requestBackoff x delay) fun _ => advances_pure _

theorem upholds_shouldBackOff (x : Session) : Upholds x.shouldBackOff :=
  upholds_bind (upholds_of_quiet (asks_mayProceed _ _)) fun _ => upholds_pure _

theorem upholds_requestBackoff (x : Session) (delay : Nat) : Upholds (x.requestBackoff delay) := by
  refine upholds_bind (upholds_extend _ _) fun kept => ?_
  cases kept with
  | error e => exact upholds_pure _
  | ok _ => exact upholds_bind (upholds_extend _ _) fun _ => upholds_pure _

private theorem upholds_observeClock (x : Session) (headers : Http.Headers) : Upholds (x.observeClock headers) := by
  unfold Session.observeClock
  cases headers.serverTimestamp? with
  | none => exact upholds_pure _
  | some server => exact upholds_bind (Ledger.upholds_observeClock _ _) fun _ => upholds_pure _

theorem upholds_observe (x : Session) (status : UInt16) (headers : Http.Headers) :
    Upholds (x.observe status headers) := by
  refine upholds_bind (upholds_observeClock x headers) fun _ => upholds_bind (upholds_of_quiet asks_now) fun now => ?_
  cases (headers.backoffSignal status now).delay? with
  | none => exact upholds_pure _
  | some delay => exact upholds_bind (upholds_requestBackoff x delay) fun _ => upholds_pure _

theorem requestBackoff_reaches {r : Except SyncError Unit} (hw : s.Working)
    (h : Runs Passes s (x.requestBackoff delay) ms r s') :
    r = .ok () ∧ ∃ t rest, ms = ⟨⟨.now, t.clock⟩, t⟩ :: rest ∧ s.clock ≤ t.clock ∧
      after t.clock delay ≤ s'.earliest .scheduler := by
  obtain ⟨xs, kept, u, rest, hhost, hrest, rfl⟩ := runs_bind_iff.mp h
  have hextend := extending_of_runs hhost
  obtain ⟨t, ys, rfl, hst, _, _⟩ := hextend.reaches hw
  have hu : u.Working := hextend.forward.working hw
  have htu : t.clock ≤ u.clock := clock_le_of_follows (follows_cons_iff.mp hhost.2).2
  obtain ⟨deadline, rfl⟩ := hextend.exists_ok hw
  obtain ⟨zs, done, v, vs, hscheduler, hpure, rfl⟩ := runs_bind_iff.mp hrest
  obtain ⟨rfl, rfl, rfl⟩ := runs_pure_iff.mp hpure
  have hagain := extending_of_runs hscheduler
  obtain ⟨deadline', rfl⟩ := hagain.exists_ok hu
  obtain ⟨w, us, rfl, huw, _, hreach⟩ := hagain.reaches hu
  refine ⟨rfl, t, _, rfl, hst, ?_⟩
  exact UInt64.le_trans (after_mono (UInt64.le_trans htu huw) delay) hreach

/-- A response is answered by the delay that it asks for, read at some time, and that is then kept. -/
theorem observe_reaches {r : Except SyncError (Option Nat)} (hw : s.Working)
    (h : Runs Passes s (x.observe status headers) ms r s') :
    ∃ now, r = .ok (headers.backoffSignal status now).delay? ∧
      ∀ delay, (headers.backoffSignal status now).delay? = some delay →
        ∃ m rest, ms = m :: rest ∧ after m.after.clock delay ≤ s'.earliest .scheduler := by
  obtain ⟨xs, _, t, rest, hclock, hrest, rfl⟩ := runs_bind_iff.mp h
  obtain ⟨ys, now, u, zs, hnow, hkeep, rfl⟩ := runs_bind_iff.mp hrest
  obtain ⟨rfl, rfl, htu⟩ := still_of_now hnow
  have hu : u.Working := htu.forward.working ((advances_observeClock x headers _ _ _ _ hclock).working hw)
  refine ⟨u.clock, ?_⟩
  cases hd : (headers.backoffSignal status u.clock).delay? with
  | none =>
    rw [hd] at hkeep
    obtain ⟨rfl, rfl, rfl⟩ := runs_pure_iff.mp hkeep
    refine ⟨rfl, ?_⟩
    intro delay he
    cases he
  | some delay =>
    rw [hd] at hkeep
    obtain ⟨vs, kept, v, ws, hrequest, hpure, rfl⟩ := runs_bind_iff.mp hkeep
    obtain ⟨rfl, rfl, rfl⟩ := runs_pure_iff.mp hpure
    obtain ⟨rfl, w, rest, rfl, huw, hreach⟩ := requestBackoff_reaches hu hrequest
    refine ⟨rfl, ?_⟩
    intro delay' he
    cases he
    -- The session begins no later than it reads the time that the delay is counted from.
    cases xs with
    | nil =>
      exact ⟨_, _, rfl, UInt64.le_trans (after_mono huw delay) hreach⟩
    | cons m xs =>
      have hm : m.after.clock ≤ t.clock := clock_le_of_follows (follows_cons_iff.mp hclock.2).2
      have hle := UInt64.le_trans (UInt64.le_trans hm htu.1) huw
      exact ⟨m, _, rfl, UInt64.le_trans (after_mono hle delay) hreach⟩

end AccountSync.Storage.Session
