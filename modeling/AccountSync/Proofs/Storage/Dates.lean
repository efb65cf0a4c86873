import AccountSync.Proofs.Attempt.Exchange
import AccountSync.Proofs.Http.Backoff
import AccountSync.Proofs.Storage.Reports

/-!
Dates to come back at. A failed response may name one (`Appoints`); what is kept of it are the whole seconds until then,
so a deadline falls short of the date by the part of a second that is left over (`Honours`). Main statement:
`keeps_of_observe`, that the deadlines of a session that has seen such a response honour its date.
-/

set_option autoImplicit false
set_option relaxedAutoImplicit false

namespace AccountSync

/-- A response that did not go well tells to come back at a date that is ahead of the clock. -/
structure Http.Headers.Appoints (hs : Headers) (status : UInt16) (now : Instant) (date : Int) : Prop where
  failed : ¬ (200 ≤ status ∧ status < 300)
  dated : ∃ value, hs.first? "Retry-After" = some value ∧ Dated value date
  ahead : now.toNat < date

/-- An instant does not come before a date but for the part of a second that is left over when the time until then
is counted from a reading of the clock. -/
def Honours (now : Instant) (date : Int) (instant : Instant) : Prop :=
  date - (date - now.toNat) % 1000 ≤ instant.toNat

def Keeps (now : Instant) (date : Int) (deadline : Instant) : Prop :=
  1000 ≤ date - now.toNat → Honours now date deadline

variable {now instant later deadline : Instant} {date : Int} {headers : Http.Headers} {status : UInt16}

theorem Honours.lt (h : Honours now date instant) : date < instant.toNat + 1000 := by
  have hmod := Int.emod_lt_of_pos (date - now.toNat) (by decide : (0 : Int) < 1000)
  unfold Honours at h
  omega

private theorem Honours.mono (h : Honours now date instant) (hle : instant ≤ later) : Honours now date later := by
  have hnat : instant.toNat ≤ later.toNat := hle
  unfold Honours at h ⊢
  omega

theorem Keeps.mono (h : Keeps now date deadline) (hle : deadline ≤ later) : Keeps now date later :=
  fun hsecond => (h hsecond).mono hle

/-- What comes after the reading and after a deadline that keeps a date honours it, however near the date was. -/
theorem Keeps.honours (h : Keeps now date deadline) (hahead : now.toNat < date) (hnow : now ≤ instant)
    (hdeadline : deadline ≤ instant) : Honours now date instant := by
  by_cases hsecond : 1000 ≤ date - now.toNat
  · exact (h hsecond).mono hdeadline
  · have hnat : now.toNat ≤ instant.toNat := hnow
    have hmod : (date - now.toNat) % 1000 = date - now.toNat := Int.emod_eq_of_lt (by omega) (by omega)
    unfold Honours
    omega

namespace Http.Headers.Appoints

private theorem lt (h : headers.Appoints status now date) : date < 2 ^ 63 := by
  obtain ⟨_, _, _, text, _, hdate⟩ := h.dated
  exact date_millis?_lt hdate

private theorem counts (h : headers.Appoints status now date) :
    (headers.backoffSignal status now).Counts ((date - now.toNat) / 1000).toNat := by
  obtain ⟨value, hfirst, hdated⟩ := h.dated
  have hahead := h.ahead
  refine ⟨.retryAfter, fun _ => h.failed, (seconds?_eq_some_iff .retryAfter).mpr ⟨value, hfirst, ?_⟩⟩
  exact .inr ⟨rfl, date, hdated, by omega, by omega⟩

private theorem le_requested (h : headers.Appoints status now date) :
    1000 * ((date - now.toNat) / 1000) ≤ Attempt.requested (headers.backoffSignal status now) := by
  have hcounts := h.counts
  have hahead := h.ahead
  rw [← Attempt.getD_total]
  cases htotal : (headers.backoffSignal status now).total with
  | none => exact (BackoffSignal.total_eq_none_iff.mp htotal _ hcounts).elim
  | some delay =>
    obtain ⟨n, ⟨_, hgreatest⟩, rfl⟩ := BackoffSignal.total_eq_some_iff.mp htotal
    have hle := hgreatest hcounts
    rw [Option.getD_some]
    omega

theorem keeps (h : headers.Appoints status now date) (hnow : now ≤ instant)
    (hreach : Attempt.requested (headers.backoffSignal status now) ≠ 0 →
      after instant (Attempt.requested (headers.backoffSignal status now)) ≤ deadline) : Keeps now date deadline := by
  intro hsecond
  have hrequested := h.le_requested
  have hdate := h.lt
  have hnat : now.toNat ≤ instant.toNat := hnow
  have hle := hreach (by omega)
  rw [UInt64.le_iff_toNat_le, toNat_after] at hle
  unfold Honours
  unfold maxMillis UInt64.size at hle
  omega

end Http.Headers.Appoints

namespace Ledger

variable {s s' : State} {ms : Moments} {p q : Purpose} {delay : Nat}

private theorem Extending.earliest_of_ne {r : Except SyncError Instant} (h : Extending p delay s ms r s')
    (hne : q ≠ p) : s'.earliest q = s.earliest q := by
  cases h with
  | unread hst hts _ => exact (hst.trans hts).earliest_eq q
  | standing hst hts _ => exact (hst.trans hts).earliest_eq q
  | unkept hst htu hus _ => exact ((hst.trans htu).trans hus).earliest_eq q
  | moved hst htu _ hstore _ =>
    rw [earliest_of_put hstore q, if_neg fun hkey => hne (deadlineKey_injective hkey)]
    exact (hst.trans htu).earliest_eq q

end Ledger

namespace Storage.Session

open Dialogue Ledger

variable {x : Session} {s s' : State} {ms : Moments} {delay : Nat}

private theorem after_le_of_requestBackoff {r : Except SyncError Unit} (hw : s.Working)
    (h : Runs Passes s (x.requestBackoff delay) ms r s') :
    r = .ok () ∧ ∀ p ∈ x.purposes, after s.clock delay ≤ s'.earliest p := by
  obtain ⟨hok, t, _, _, hst, hscheduler⟩ := requestBackoff_reaches hw h
  refine ⟨hok, ?_⟩
  obtain ⟨xs, kept, u, rest, hhost, hrest, rfl⟩ := runs_bind_iff.mp h
  have hextend := extending_of_runs hhost
  obtain ⟨_, rfl⟩ := hextend.exists_ok hw
  obtain ⟨v, _, _, hsv, _, hreach⟩ := hextend.reaches hw
  obtain ⟨ys, done, w, zs, hagain, hpure, rfl⟩ := runs_bind_iff.mp hrest
  obtain ⟨_, _, rfl⟩ := runs_pure_iff.mp hpure
  have hkept : s'.earliest (.storage x.host) = u.earliest (.storage x.host) :=
    (extending_of_runs hagain).earliest_of_ne fun he => lasting_scheduler x.host he.symm
  intro p hp
  simp only [purposes, List.mem_cons, List.not_mem_nil, or_false] at hp
  rcases hp with rfl | rfl
  · rw [hkept]
    exact UInt64.le_trans (after_mono hsv delay) hreach
  · exact UInt64.le_trans (after_mono hst delay) hscheduler

/-- Over a store that works a session looks at a response when it has read the clock. It answers by the delay that is
asked for then, and its deadlines keep the date that is named. -/
theorem keeps_of_observe {r : Except SyncError (Option Nat)} (hw : s.Working)
    (h : Runs Passes s (x.observe status headers) ms r s') :
    ∃ now t, ⟨⟨.now, now⟩, t⟩ ∈ ms ∧ s.clock ≤ now ∧ now ≤ s'.clock ∧
      r = .ok (headers.backoffSignal status now).delay? ∧
      ∀ date, headers.Appoints status now date → ∀ p ∈ x.purposes, Keeps now date (s'.earliest p) := by
  obtain ⟨xs, _, t, rest, hclock, hrest, rfl⟩ := runs_bind_iff.mp h
  obtain ⟨ys, _, u, zs, hnow, hkeep, rfl⟩ := runs_bind_iff.mp hrest
  obtain ⟨rfl, rfl, htu⟩ := still_of_now hnow
  have hst := advances_observeClock x headers _ _ _ _ hclock
  have hsu : s.clock ≤ u.clock := UInt64.le_trans hst.clock htu.1
  have hmem : (⟨⟨.now, u.clock⟩, u⟩ : Moment Question.Answer State) ∈ xs ++ ([⟨⟨.now, u.clock⟩, u⟩] ++ zs) :=
    List.mem_append_right xs List.mem_cons_self
  have hus : u.clock ≤ s'.clock := clock_le_of_follows hkeep.2
  have hdelay := Attempt.delay?_eq (headers.backoffSignal status u.clock)
  rw [hdelay] at hkeep
  by_cases hzero : Attempt.requested (headers.backoffSignal status u.clock) = 0
  · rw [if_pos hzero] at hkeep
    obtain ⟨rfl, rfl, rfl⟩ := runs_pure_iff.mp hkeep
    refine ⟨s'.clock, s', hmem, hsu, hus, ?_, ?_⟩
    · rw [hdelay, if_pos hzero]
    · intro date happoints p _
      exact happoints.keeps (UInt64.le_refl _) fun hne => (hne hzero).elim
  · rw [if_neg hzero] at hkeep
    obtain ⟨vs, kept, v, ws, hrequest, hpure, rfl⟩ := runs_bind_iff.mp hkeep
    obtain ⟨rfl, rfl, rfl⟩ := runs_pure_iff.mp hpure
    obtain ⟨rfl, hreach⟩ := after_le_of_requestBackoff (htu.forward.working (hst.working hw)) hrequest
    refine ⟨u.clock, u, hmem, hsu, hus, ?_, ?_⟩
    · rw [hdelay, if_neg hzero]
      rfl
    · intro date happoints p hp
      exact happoints.keeps (UInt64.le_refl _) fun _ => hreach p hp

end Storage.Session

end AccountSync
