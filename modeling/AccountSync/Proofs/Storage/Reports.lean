import AccountSync.Proofs.Attempt.Exchange
import AccountSync.Proofs.Ledger.Skew

/-!
What a storage session makes of all that is reported to it, over a store that works. `heard_of_hear` says what one
report does to the ledger. Main statement: `reports_kept`, what any number of them come to: the deadline of the storage
host and the scheduler's are the latest that was asked for, and nothing is lost or invented.
-/

set_option autoImplicit false
set_option relaxedAutoImplicit false

namespace AccountSync.Storage.Session

open Dialogue Ledger

inductive Call
  | observe (status : UInt16) (headers : Http.Headers)
  | requestBackoff (delay : Nat)

abbrev Call.Answer : Call → Type
  | .observe .. => Except SyncError (Option Nat)
  | .requestBackoff _ => Except SyncError Unit

def Call.talk (x : Session) : (c : Call) → Ledger.Talk c.Answer
  | .observe status headers => x.observe status headers
  | .requestBackoff delay => x.requestBackoff delay

structure Report where
  now : Instant
  call : Call

def respond (x : Session) (s : State) (r : Report) : r.call.Answer × State :=
  (r.call.talk x).run State.answer { s with clock := r.now }

def hear (x : Session) (s : State) (r : Report) : State := (x.respond s r).2

/-- The time of a server: what the first header that can be read tells, of the three that may. -/
def told? (headers : Http.Headers) : Option Instant :=
  [(headers.text? "x-weave-timestamp").bind Http.decimalSeconds?,
    (headers.text? "x-timestamp").bind Http.decimalSeconds?,
    ((headers.text? "date").bind Http.Date.millis?).bind fun ms =>
      if 0 ≤ ms then some (UInt64.ofNat ms.toNat) else none].findSome? id

namespace Report

/-- The delay that is asked for. A response that asks for none, or for one of no length, does not count. -/
def delay? : Report → Option Nat
  | ⟨now, .observe status headers⟩ =>
    let delay := Attempt.requested (headers.backoffSignal status now)
    if delay = 0 then none else some delay
  | ⟨_, .requestBackoff delay⟩ => some delay

/-- Until when nothing more is to be asked for, in milliseconds. -/
def until? (r : Report) : Option Nat := r.delay?.map fun delay => min (r.now.toNat + delay) maxMillis

/-- The skew that a response tells, if it tells the server's time and both clocks are in range. -/
def skew? : Report → Option Int
  | ⟨now, .observe _ headers⟩ => (told? headers).bind fun server =>
    if server.toNat < 0x8000000000000000 ∧ now.toNat < 0x8000000000000000 then
      some (Int.tdiv ((server.toNat : Int) - now.toNat) 1000)
    else none
  | ⟨_, .requestBackoff _⟩ => none

end Report

structure Raised (p : Purpose) (i : Nat) (s s' : State) : Prop where
  working : s'.Working
  clock : s'.clock = s.clock
  skews : s'.skews = s.skews
  earliest : (s'.earliest p).toNat = max (s.earliest p).toNat i
  others : ∀ key, key ≠ deadlineKey p → s'.text key = s.text key

variable {x : Session} {s s' t : State} {p : Purpose} {delay : Nat} {status : UInt16} {headers : Http.Headers}
  {r : Report}

private theorem raised_of_extend (hw : s.Working) (p : Purpose) (delay : Nat) : ∃ deadline s',
    (extend p delay).run State.answer s = (.ok deadline, s') ∧
      Raised p (min (s.clock.toNat + delay) maxMillis) s s' := by
  have hafter := toNat_after s.clock delay
  by_cases hlt : s.earliest p < after s.clock delay
  · refine ⟨_, _, run_extend_of_lt hw hlt, hw, rfl, rfl, ?_, ?_⟩
    · have hearliest : State.earliest
          { s with store := s.put (deadlineKey p) (toString (after s.clock delay).toNat) } p = after s.clock delay := by
        rw [State.earliest, text_of_put rfl, if_pos rfl, readDeadline_toString]
        rfl
      have hnat : (s.earliest p).toNat < (after s.clock delay).toNat := hlt
      rw [hearliest]
      omega
    · intro key hkey
      rw [text_of_put rfl, if_neg hkey]
  · have hle : after s.clock delay ≤ s.earliest p := UInt64.not_lt.mp hlt
    refine ⟨_, _, run_extend_of_le hw hle, hw, rfl, rfl, ?_, fun _ _ => rfl⟩
    have hnat : (after s.clock delay).toNat ≤ (s.earliest p).toNat := hle
    omega

private theorem earliest_of_text (h : s'.text (deadlineKey p) = s.text (deadlineKey p)) :
    s'.earliest p = s.earliest p := by
  rw [State.earliest, h]
  rfl

def purposes (x : Session) : List Purpose := [.storage x.host, .scheduler]

structure Kept (x : Session) (is : List Nat) (s s' : State) : Prop where
  working : s'.Working
  earliest : ∀ p ∈ x.purposes, (s'.earliest p).toNat = is.foldl max (s.earliest p).toNat
  others : ∀ key, (∀ p ∈ x.purposes, key ≠ deadlineKey p) → s'.text key = s.text key

private theorem kept_of_store (hw : s.Working) (h : s'.store = s.store) : Kept x [] s s' where
  working := by
    rw [State.Working, h]
    exact hw
  earliest := by
    intro p _
    rw [earliest_of_text (text_of_store h _)]
    rfl
  others := fun key _ => text_of_store h key

private theorem Kept.trans {is js : List Nat} (his : Kept x is s t) (hjs : Kept x js t s') :
    Kept x (is ++ js) s s' where
  working := hjs.working
  earliest := by
    intro p hp
    rw [hjs.earliest p hp, his.earliest p hp, List.foldl_append]
  others := fun key hkey => (hjs.others key hkey).trans (his.others key hkey)

private theorem kept_of_raised {i : Nat} (hhost : Raised (.storage x.host) i s t)
    (hscheduler : Raised .scheduler i t s') : Kept x [i] s s' where
  working := hscheduler.working
  earliest := by
    have hne : deadlineKey (.storage x.host) ≠ deadlineKey .scheduler :=
      fun h => lasting_scheduler x.host (deadlineKey_injective h).symm
    intro p hp
    simp only [purposes, List.mem_cons, List.not_mem_nil, or_false] at hp
    rcases hp with rfl | rfl
    · rw [earliest_of_text (hscheduler.others _ hne), hhost.earliest]
      rfl
    · rw [hscheduler.earliest, earliest_of_text (hhost.others _ hne.symm)]
      rfl
  others := by
    intro key hkey
    have hhostKey := hkey (.storage x.host) List.mem_cons_self
    have hschedulerKey := hkey .scheduler (List.mem_cons_of_mem _ List.mem_cons_self)
    rw [hscheduler.others key hschedulerKey, hhost.others key hhostKey]

private theorem run_requestBackoff (hw : s.Working) (x : Session) (delay : Nat) : ∃ s',
    (x.requestBackoff delay).run State.answer s = (.ok (), s') ∧
      Kept x [min (s.clock.toNat + delay) maxMillis] s s' ∧ s'.skews = s.skews := by
  obtain ⟨_, t, hhost, hraised⟩ := raised_of_extend hw (.storage x.host) delay
  obtain ⟨_, s', hscheduler, hraised'⟩ := raised_of_extend hraised.working .scheduler delay
  refine ⟨s', ?_, kept_of_raised hraised (hraised.clock ▸ hraised'), hraised'.skews.trans hraised.skews⟩
  rw [requestBackoff, run_bind, hhost]
  dsimp only
  rw [Schedule.onBackoff, run_bind, hscheduler]
  rfl

private theorem serverTimestamp?_eq (headers : Http.Headers) : headers.serverTimestamp? = told? headers := by
  unfold Http.Headers.serverTimestamp? Http.Headers.weaveTimestamp? told?
  cases (headers.text? "x-weave-timestamp").bind Http.decimalSeconds? with
  | some server => rfl
  | none =>
    cases (headers.text? "x-timestamp").bind Http.decimalSeconds? with
    | some server => rfl
    | none =>
      cases ((headers.text? "date").bind Http.Date.millis?).bind fun ms =>
          if 0 ≤ ms then some (UInt64.ofNat ms.toNat) else none with
      | some server => rfl
      | none => rfl

private theorem run_observeClock (s : State) (x : Session) (headers : Http.Headers) : ∃ s',
    (x.observeClock headers).run State.answer s = ((), s') ∧ s'.store = s.store ∧ s'.clock = s.clock ∧
      s'.reply (.skew x.host) = ((told? headers).bind (skewBetween? · s.clock)).getD (s.reply (.skew x.host)) := by
  have hself : sameHost x.host x.host = true := decide_eq_true rfl
  unfold Session.observeClock
  rw [serverTimestamp?_eq]
  cases told? headers with
  | none => exact ⟨s, rfl, rfl, rfl, rfl⟩
  | some server =>
    dsimp only
    rw [run_bind, Option.bind_some]
    cases hbetween : skewBetween? server s.clock with
    | none =>
      rw [run_observeClock_of_none hbetween]
      exact ⟨s, rfl, rfl, rfl, rfl⟩
    | some seconds =>
      rw [run_observeClock_of_some hbetween]
      refine ⟨_, rfl, rfl, rfl, ?_⟩
      rw [reply_skew_recorded, if_pos hself]
      rfl

private theorem run_observe (hw : s.Working) (x : Session) (status : UInt16) (headers : Http.Headers) : ∃ s',
    (x.observe status headers).run State.answer s = (.ok (Report.delay? ⟨s.clock, .observe status headers⟩), s') ∧
      Kept x (Report.until? ⟨s.clock, .observe status headers⟩).toList s s' ∧
      s'.reply (.skew x.host) =
        (Report.skew? ⟨s.clock, .observe status headers⟩).getD (s.reply (.skew x.host)) := by
  obtain ⟨t, hclock, hstore, hnow, hskew⟩ := run_observeClock s x headers
  have ht : t.Working := by
    rw [State.Working, hstore]
    exact hw
  have hdelay : (headers.backoffSignal status s.clock).delay? = Report.delay? ⟨s.clock, .observe status headers⟩ :=
    Attempt.delay?_eq _
  rw [observe, run_bind, hclock, run_bind, run_now, Report.until?]
  dsimp only
  rw [hnow, hdelay]
  cases Report.delay? ⟨s.clock, .observe status headers⟩ with
  | none => exact ⟨t, rfl, kept_of_store hw hstore, hskew⟩
  | some delay =>
    obtain ⟨s', hrequest, hkept, hskews⟩ := run_requestBackoff ht x delay
    rw [hnow] at hkept
    refine ⟨s', ?_, (kept_of_store hw hstore).trans hkept, (reply_skew_of_skews hskews).trans hskew⟩
    dsimp only
    rw [run_bind, hrequest]
    rfl

/-- What reports do to the ledger: the instants that the deadlines are moved to, and the skews that are told. -/
structure Heard (x : Session) (is : List Nat) (skews : List Int) (s s' : State) : Prop extends Kept x is s s' where
  skew : s'.reply (.skew x.host) = skews.getLast?.getD (s.reply (.skew x.host))

private theorem getD_getLast?_toList (o : Option Int) (k : Int) : o.toList.getLast?.getD k = o.getD k := by
  cases o <;> rfl

theorem heard_of_hear (hw : s.Working) (x : Session) (r : Report) :
    Heard x r.until?.toList r.skew?.toList s (x.hear s r) := by
  have hnow : ({ s with clock := r.now } : State).Working := hw
  obtain ⟨now, call⟩ := r
  have htime : Kept x [] s { s with clock := now } := kept_of_store hw rfl
  cases call with
  | observe status headers =>
    obtain ⟨s', hrun, hkept, hskew⟩ := run_observe hnow x status headers
    have hhear : x.hear s ⟨now, .observe status headers⟩ = s' := congrArg Prod.snd hrun
    rw [hhear]
    refine ⟨htime.trans hkept, ?_⟩
    rw [getD_getLast?_toList]
    exact hskew
  | requestBackoff delay =>
    obtain ⟨s', hrun, hkept, hskews⟩ := run_requestBackoff hnow x delay
    have hhear : x.hear s ⟨now, .requestBackoff delay⟩ = s' := congrArg Prod.snd hrun
    rw [hhear]
    exact ⟨htime.trans hkept, reply_skew_of_skews hskews⟩

private theorem Heard.trans {is js : List Nat} {ks ls : List Int} (h : Heard x is ks s t) (h' : Heard x js ls t s') :
    Heard x (is ++ js) (ks ++ ls) s s' := by
  refine ⟨h.toKept.trans h'.toKept, ?_⟩
  rw [h'.skew, h.skew, List.getLast?_append]
  cases ls.getLast? <;> rfl

private theorem heard_of_foldl (hw : s.Working) (x : Session) (rs : List Report) :
    Heard x (rs.filterMap Report.until?) (rs.filterMap Report.skew?) s (rs.foldl x.hear s) := by
  induction rs generalizing s with
  | nil => exact ⟨kept_of_store hw rfl, rfl⟩
  | cons r rs ih =>
    have hfirst := heard_of_hear hw x r
    have hcons : ∀ {β : Type} (f : Report → Option β), (r :: rs).filterMap f = (f r).toList ++ rs.filterMap f := by
      intro β f
      rw [List.filterMap_cons]
      cases f r <;> rfl
    rw [hcons, hcons]
    exact hfirst.trans (ih hfirst.working)

private theorem run_shouldBackOff (hw : s.Working) (x : Session) :
    x.shouldBackOff.run State.answer s = (.ok (decide (s.clock < s.earliest (.storage x.host))), s) := by
  rw [shouldBackOff, run_bind, run_mayProceed hw]
  have hleft : (!decide (timeLeft s.clock (s.deadline? (.storage x.host)) = 0)) =
      decide (s.clock < s.earliest (.storage x.host)) := by
    have hearliest : s.earliest (.storage x.host) = (s.deadline? (.storage x.host)).getD 0 := rfl
    rw [hearliest, ← decide_not, decide_eq_decide, UInt64.lt_iff_toNat_lt]
    cases s.deadline? (.storage x.host) with
    | none => simp [timeLeft]
    | some d =>
      simp only [timeLeft, Option.elim_some, Option.getD_some]
      omega
  rw [← hleft]
  rfl

/-- Whatever is reported at whatever times, the deadlines of the storage host and of the scheduler are the latest of
those before and of all that was asked for, where a response asks only by a delay of some length; the engine is told to
wait until then. Other deadlines and the last host are as they were, the skew of the host is that of the last response
that tells one, and each response is answered by the delay that is kept for it. -/
theorem reports_kept (x : Session) (s : State) (hw : s.Working) (rs : List Report) :
    let s' := rs.foldl x.hear s
    (∀ p ∈ x.purposes, (s'.earliest p).toNat = (rs.filterMap Report.until?).foldl max (s.earliest p).toNat) ∧
    (∀ now, (x.shouldBackOff.run State.answer { s' with clock := now }).1 =
      .ok (decide (now < s'.earliest (.storage x.host)))) ∧
    (∀ p ∉ x.purposes, s'.deadline? p = s.deadline? p) ∧
    s'.text lastHostKey = s.text lastHostKey ∧
    s'.reply (.skew x.host) = (rs.filterMap Report.skew?).getLast?.getD (s.reply (.skew x.host)) ∧
    ∀ before now status headers later, rs = before ++ ⟨now, .observe status headers⟩ :: later →
      (x.respond (before.foldl x.hear s) ⟨now, .observe status headers⟩).1 =
        .ok (Report.delay? ⟨now, .observe status headers⟩) := by
  intro s'
  have hheard : Heard x _ _ s s' := heard_of_foldl hw x rs
  refine ⟨hheard.earliest, ?_, ?_, ?_, hheard.skew, ?_⟩
  · intro now
    have hnow : ({ s' with clock := now } : State).Working := hheard.working
    rw [run_shouldBackOff hnow]
    rfl
  · intro p hp
    refine deadline?_of_text (hheard.others _ fun q hq hkey => hp ?_)
    rwa [deadlineKey_injective hkey]
  · exact hheard.others _ fun p _ => lastHostKey_ne_deadlineKey p
  · rintro before now status headers later -
    have hbefore := (heard_of_foldl hw x before).working
    have hnow : ({ before.foldl x.hear s with clock := now } : State).Working := hbefore
    obtain ⟨_, hrun, -⟩ := run_observe hnow x status headers
    exact congrArg Prod.fst hrun

def plain : Session where
  uid := "u"
  endpoint := ⟨"https", some ⟨"", none, "s.example", none⟩, "/", none, none⟩
  signer := ⟨"i", [], 0⟩
  keyBundle := ⟨.zero, .zero⟩
  forced := false

/-- A server that is ten seconds ahead asks for a minute, and the engine then for five seconds. -/
def slowed : List Report :=
  [⟨2000, .observe 200 [⟨"X-Weave-Backoff", [54, 48]⟩, ⟨"X-Weave-Timestamp", [49, 50]⟩]⟩, ⟨3000, .requestBackoff 5000⟩]

theorem reports_kept_slowed : (⟨1000, {}, []⟩ : State).Working ∧
    let s' := slowed.foldl plain.hear ⟨1000, {}, []⟩
    (s'.earliest .scheduler).toNat = 62000 ∧ s'.reply (.skew plain.host) = 10 := by
  have hw : (⟨1000, {}, []⟩ : State).Working := rfl
  obtain ⟨hdeadlines, -, -, -, hskew, -⟩ := reports_kept plain ⟨1000, {}, []⟩ hw slowed
  have huntil : slowed.filterMap Report.until? = [62000, 8000] := by decide +kernel
  have hskews : slowed.filterMap Report.skew? = [10] := by decide +kernel
  have hscheduler := hdeadlines .scheduler (List.mem_cons_of_mem _ List.mem_cons_self)
  rw [huntil] at hscheduler
  rw [hskews] at hskew
  exact ⟨hw, hscheduler, hskew⟩

end AccountSync.Storage.Session
