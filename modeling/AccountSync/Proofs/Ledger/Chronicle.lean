import AccountSync.Proofs.Ledger.Standing

/-!
Histories of a ledger: any operations in any order, the clock set to any time between them, over a store that works.
Main statement: `deadlines_of_history`, that the deadline of a purpose is the latest of the one on record when it was
last dropped, or at the start, and of those asked for since, and that every operation answers by it.
-/

set_option autoImplicit false
set_option relaxedAutoImplicit false

namespace AccountSync.Ledger

open Dialogue

inductive Operation
  | extend (purpose : Purpose) (delay : Nat)
  | clear (purpose : Purpose)
  | switchHost (host : String)
  | setLastHost (host : String)
  | recordSkew (host : String) (seconds : Int)
  | observeClock (host : String) (server : Instant)
  | now
  | deadline (purpose : Purpose)
  | remaining (purpose : Purpose)
  | mayProceed (purpose : Purpose) (forced : Bool)
  | lastHost
  | skew (host : String)
  | adjustedNow (host : String)

abbrev Operation.Answer : Operation → Type
  | .extend .. => Except SyncError Instant
  | .clear _ => Except SyncError Unit
  | .switchHost _ => Except SyncError Bool
  | .setLastHost _ => Except SyncError Unit
  | .recordSkew .. => Unit
  | .observeClock .. => Int
  | .now => Instant
  | .deadline _ => Except SyncError (Option Instant)
  | .remaining _ => Except SyncError Nat
  | .mayProceed .. => Except SyncError Bool
  | .lastHost => Except SyncError (Option String)
  | .skew _ => Int
  | .adjustedNow _ => Instant

def Operation.talk : (o : Operation) → Talk o.Answer
  | .extend p delay => Ledger.extend p delay
  | .clear p => Ledger.clear p
  | .switchHost host => Ledger.switchHost host
  | .setLastHost host => Ledger.setLastHost host
  | .recordSkew host seconds => Ledger.recordSkew host seconds
  | .observeClock host server => Ledger.observeClock host server
  | .now => Ledger.now
  | .deadline p => Ledger.deadline p
  | .remaining p => Ledger.remaining p
  | .mayProceed p forced => Ledger.mayProceed p forced
  | .lastHost => Ledger.lastHost
  | .skew host => Ledger.skew host
  | .adjustedNow host => Ledger.adjustedNow host

/-- A step of a history. The clock may be set to any time, also an earlier one. -/
inductive Step
  | operate (operation : Operation)
  | setClock (now : Instant)

namespace State

def reply (s : State) (o : Operation) : o.Answer := (o.talk.run State.answer s).1

def step (s : State) : Step → State
  | .operate o => (o.talk.run State.answer s).2
  | .setClock now => { s with clock := now }

def history (s : State) (steps : List Step) : State := steps.foldl step s

end State

inductive Demand
  | atLeast (instant : Instant)
  | drop

/-- A switch of storage hosts drops the deadline of the host before, if it was another one. -/
def demand? (p : Purpose) (s : State) : Step → Option Demand
  | .operate (.extend q delay) => if q = p then some (.atLeast (after s.clock delay)) else none
  | .operate (.clear q) => if q = p then some .drop else none
  | .operate (.switchHost host) =>
    match s.text lastHostKey with
    | some previous => if sameHost previous host = false ∧ .storage previous = p then some .drop else none
    | none => none
  | _ => none

def demands (p : Purpose) : State → List Step → List Demand
  | _, [] => []
  | s, step :: steps => (demand? p s step).toList ++ demands p (s.step step) steps

/-- The deadline on record when it was last dropped, or at the start, and the instants asked for since. -/
structure Tally where
  base : Option Instant
  asked : List Instant := []

namespace Tally

def add (m : Tally) : Demand → Tally
  | .atLeast i => { m with asked := i :: m.asked }
  | .drop => ⟨none, []⟩

/-- The latest instant; one that is missing counts as the beginning of time. -/
def latest (m : Tally) : Instant := m.asked.foldr max (m.base.getD 0)

/-- The deadline that should be on record. The beginning of time is recorded only if it was so before. -/
def deadline? (m : Tally) : Option Instant := if m.latest = 0 then m.base else some m.latest

end Tally

def tally (p : Purpose) (s : State) (steps : List Step) : Tally :=
  (demands p s steps).foldl Tally.add ⟨s.deadline? p, []⟩

variable {s t : State} {p q : Purpose} {m : Tally} {host key value : String} {delay : Nat}

theorem runs_answer {α : Type} (d : Talk α) (s : State) :
    Runs Reads s d (d.record State.answer s) (d.run State.answer s).1 (d.run State.answer s).2 :=
  runs_record reads_answer d s

private theorem run_get (hw : s.Working) : (get key).run State.answer s = (.ok (s.text key), s) := by
  obtain ⟨-, hanswer, hstate⟩ := reads_get hw (runs_answer (get key) s)
  exact Prod.ext hanswer hstate

private theorem run_set (hw : s.Working) :
    (set key value).run State.answer s = (.ok (), { s with store := s.put key value }) := by
  obtain ⟨hanswer, hstate⟩ := reads_set hw (runs_answer (set key value) s)
  exact Prod.ext hanswer hstate

private theorem run_remove (hw : s.Working) :
    (remove key).run State.answer s = (.ok (), { s with store := s.drop key }) := by
  obtain ⟨hanswer, hstate⟩ := reads_remove hw (runs_answer (remove key) s)
  exact Prod.ext hanswer hstate

theorem run_now : now.run State.answer s = (s.clock, s) := rfl

private theorem run_deadline (hw : s.Working) : (deadline p).run State.answer s = (.ok (s.deadline? p), s) := by
  unfold deadline
  rw [run_bind, run_get hw]
  rfl

private theorem run_remaining (hw : s.Working) :
    (remaining p).run State.answer s = (.ok (timeLeft s.clock (s.deadline? p)), s) := by
  unfold remaining
  rw [run_bind, run_now, run_bind, run_deadline hw]
  rfl

theorem run_mayProceed (hw : s.Working) : (mayProceed p false).run State.answer s =
    (.ok (timeLeft s.clock (s.deadline? p) = 0), s) := by
  unfold mayProceed
  rw [if_neg Bool.false_ne_true, run_bind, run_remaining hw]
  rfl

theorem run_extend_of_le (hw : s.Working) (h : after s.clock delay ≤ (s.deadline? p).getD 0) :
    (extend p delay).run State.answer s = (.ok ((s.deadline? p).getD 0), s) := by
  unfold extend
  rw [run_bind, run_now, run_bind, run_deadline hw]
  dsimp only
  rw [if_pos h]
  rfl

theorem run_extend_of_lt (hw : s.Working) (h : (s.deadline? p).getD 0 < after s.clock delay) :
    (extend p delay).run State.answer s = (.ok (after s.clock delay),
      { s with store := s.put (deadlineKey p) (toString (after s.clock delay).toNat) }) := by
  unfold extend
  rw [run_bind, run_now, run_bind, run_deadline hw]
  dsimp only
  rw [if_neg (UInt64.not_le.mpr h), run_bind, run_set hw]
  rfl

private theorem run_clear (hw : s.Working) : (clear p).run State.answer s =
    (.ok (), { s with store := s.drop (deadlineKey p) }) := run_remove hw

private theorem run_setLastHost (hw : s.Working) : (setLastHost host).run State.answer s =
    (.ok (), { s with store := s.put lastHostKey (Text.LetterCase.lowerAscii host) }) := run_set hw

private theorem run_switchHost_of_none (hw : s.Working) (hlast : s.text lastHostKey = none) :
    (switchHost host).run State.answer s =
      (.ok true, { s with store := s.put lastHostKey (Text.LetterCase.lowerAscii host) }) := by
  unfold switchHost lastHost
  rw [run_bind, run_get hw, hlast]
  dsimp only
  rw [run_bind, run_setLastHost hw]
  rfl

variable {previous : String}

private theorem run_switchHost_of_same (hw : s.Working) (hlast : s.text lastHostKey = some previous)
    (hsame : sameHost previous host = true) : (switchHost host).run State.answer s = (.ok false, s) := by
  unfold switchHost lastHost
  rw [run_bind, run_get hw, hlast]
  dsimp only
  rw [if_pos hsame]
  rfl

/-- The deadline of the host before goes first, then the new host is recorded. -/
theorem run_switchHost_of_other (hw : s.Working) (hlast : s.text lastHostKey = some previous)
    (hother : sameHost previous host = false) :
    (switchHost host).run State.answer s = (.ok true,
      { s with store := (State.put { s with store := s.drop (deadlineKey (.storage previous)) } lastHostKey
        (Text.LetterCase.lowerAscii host)) }) := by
  unfold switchHost lastHost
  rw [run_bind, run_get hw, hlast]
  dsimp only
  have hdropped : ({ s with store := s.drop (deadlineKey (.storage previous)) } : State).Working := hw
  rw [if_neg (by rw [hother]; exact Bool.false_ne_true), run_bind, run_clear hw]
  dsimp only
  rw [run_bind, run_setLastHost hdropped]
  rfl

theorem deadline?_of_text (h : t.text (deadlineKey p) = s.text (deadlineKey p)) :
    t.deadline? p = s.deadline? p := by
  unfold State.deadline?
  rw [h]

private theorem deadline?_of_put (h : t.store = s.put key value) (hkey : deadlineKey p ≠ key) :
    t.deadline? p = s.deadline? p := by
  apply deadline?_of_text
  rw [text_of_put h, if_neg hkey]

theorem deadline?_of_drop (h : t.store = s.drop (deadlineKey q)) :
    t.deadline? p = if p = q then none else s.deadline? p := by
  unfold State.deadline?
  rw [text_of_drop h]
  by_cases hp : p = q
  · rw [hp, if_pos rfl, if_pos rfl]
    rfl
  · have hkey : deadlineKey p ≠ deadlineKey q := fun he => hp (deadlineKey_injective he)
    rw [if_neg hkey, if_neg hp]

private theorem deadline?_extend (hw : s.Working) (p q : Purpose) (delay : Nat) :
    (s.step (.operate (.extend q delay))).deadline? p =
      if q = p ∧ (s.deadline? p).getD 0 < after s.clock delay then some (after s.clock delay) else s.deadline? p := by
  change ((extend q delay).run State.answer s).2.deadline? p = _
  by_cases hlt : (s.deadline? q).getD 0 < after s.clock delay
  · rw [run_extend_of_lt hw hlt]
    by_cases hq : q = p
    · subst hq
      rw [if_pos ⟨rfl, hlt⟩]
      unfold State.deadline?
      rw [text_of_put rfl, if_pos rfl]
      exact readDeadline_toString _
    · have hkey : deadlineKey p ≠ deadlineKey q := fun he => hq (deadlineKey_injective he).symm
      rw [if_neg fun h => hq h.1]
      exact deadline?_of_put rfl hkey
  · rw [run_extend_of_le hw (UInt64.not_lt.mp hlt), if_neg]
    rintro ⟨rfl, h⟩
    exact hlt h

private theorem deadline?_clear (hw : s.Working) (p q : Purpose) :
    (s.step (.operate (.clear q))).deadline? p = if p = q then none else s.deadline? p := by
  change ((clear q).run State.answer s).2.deadline? p = _
  rw [run_clear hw]
  exact deadline?_of_drop rfl

/-- A switch of storage hosts does to deadlines what dropping the one of the host before does. -/
theorem deadline?_switchHost (hw : s.Working) (p : Purpose) (host : String) :
    (s.step (.operate (.switchHost host))).deadline? p =
      match s.text lastHostKey with
      | some previous =>
        if sameHost previous host then s.deadline? p
        else (s.step (.operate (.clear (.storage previous)))).deadline? p
      | none => s.deadline? p := by
  have hkey : deadlineKey p ≠ lastHostKey := (lastHostKey_ne_deadlineKey p).symm
  change ((switchHost host).run State.answer s).2.deadline? p = _
  cases hlast : s.text lastHostKey with
  | none =>
    rw [run_switchHost_of_none hw hlast]
    exact deadline?_of_put rfl hkey
  | some previous =>
    dsimp only
    cases hsame : sameHost previous host with
    | true =>
      rw [run_switchHost_of_same hw hlast hsame]
      rfl
    | false =>
      rw [run_switchHost_of_other hw hlast hsame, deadline?_clear hw, if_neg Bool.false_ne_true]
      rw [deadline?_of_put rfl hkey]
      exact deadline?_of_drop rfl

private theorem deadline?_of_asks (o : Operation) (h : o.talk.Asks fun x => ¬ x.Writes (deadlineKey p)) :
    (s.step (.operate o)).deadline? p = s.deadline? p :=
  deadline?_of_text (text_of_asks (runs_answer o.talk s) h)

/-- Whether an operation was called on a purpose to change its deadline. -/
def Operation.Names (p : Purpose) : Operation → Prop
  | .extend q _ => q = p
  | .clear q => q = p
  | _ => False

/-- Of the operations that are not called on a purpose only a switch of hosts can touch its deadline. -/
theorem deadline?_of_not_names (hw : s.Working) {o : Operation} (ho : ¬ o.Names p)
    (hswitch : ∀ host, o ≠ .switchHost host) : (s.step (.operate o)).deadline? p = s.deadline? p := by
  have hquiet : ∀ {α : Type} {d : Talk α}, d.Asks Question.Quiet → d.Asks fun x => ¬ x.Writes (deadlineKey p) :=
    fun hd => hd.mono fun _ hq => hq _
  cases o with
  | extend q delay => rw [deadline?_extend hw, if_neg fun h => ho h.1]
  | clear q => rw [deadline?_clear hw, if_neg fun h => ho h.symm]
  | switchHost host => exact (hswitch host rfl).elim
  | setLastHost host => exact deadline?_of_asks _ (not_writes_setLastHost p host)
  | recordSkew host seconds => exact deadline?_of_asks _ (hquiet (asks_question.mpr (quiet_of_not_store nofun)))
  | observeClock host server => exact deadline?_of_asks _ (hquiet (asks_observeClock host server))
  | now => exact deadline?_of_asks _ (hquiet asks_now)
  | deadline q => exact deadline?_of_asks _ (hquiet (asks_deadline q))
  | remaining q => exact deadline?_of_asks _ (hquiet (asks_remaining q))
  | mayProceed q forced => exact deadline?_of_asks _ (hquiet (asks_mayProceed q forced))
  | lastHost => exact deadline?_of_asks _ (hquiet (asks_question.mpr (quiet_get _)))
  | skew host => exact deadline?_of_asks _ (hquiet (asks_skew host))
  | adjustedNow host => exact deadline?_of_asks _ (hquiet (asks_adjustedNow host))

theorem working_step (hw : s.Working) (step : Step) : (s.step step).Working := by
  cases step with
  | operate o =>
    have hfaults : (s.step (.operate o)).store.faults = s.store.faults := by
      refine (runs_answer o.talk s).2.keeps (R := fun a b => b.store.faults = a.store.faults) (fun _ => rfl) ?_ ?_
      · intro a b c hab hbc
        exact hbc.trans hab
      · intro a m _ hm
        exact hm.faults_eq
    exact hfaults.trans hw
  | setClock now => exact hw

private theorem max_of_le {a b : Instant} (h : a ≤ b) : max a b = b := if_pos h

private theorem max_of_lt {a b : Instant} (h : b < a) : max a b = a := if_neg (UInt64.not_le.mpr h)

private theorem Tally.base_le_latest (m : Tally) : m.base.getD 0 ≤ m.latest := by
  unfold Tally.latest
  induction m.asked with
  | nil => exact UInt64.le_refl _
  | cons i asked ih =>
    rw [List.foldr_cons]
    by_cases h : i ≤ asked.foldr max (m.base.getD 0)
    · rw [max_of_le h]
      exact ih
    · have hlt := UInt64.not_le.mp h
      rw [max_of_lt hlt]
      exact UInt64.le_trans ih (UInt64.le_of_lt hlt)

private theorem Tally.getD_deadline? (m : Tally) : m.deadline?.getD 0 = m.latest := by
  unfold Tally.deadline?
  by_cases h : m.latest = 0
  · have hbase := m.base_le_latest
    rw [h] at hbase
    rw [if_pos h, h]
    exact UInt64.le_antisymm hbase UInt64.zero_le
  · rw [if_neg h]
    rfl

/-- One more instant that is asked for moves a deadline exactly if it is later. -/
theorem Tally.deadline?_atLeast (m : Tally) (i : Instant) :
    (m.add (.atLeast i)).deadline? = if m.latest < i then some i else m.deadline? := by
  have hlatest : (m.add (.atLeast i)).latest = max i m.latest := rfl
  have hbase : (m.add (.atLeast i)).base = m.base := rfl
  unfold Tally.deadline?
  rw [hlatest, hbase]
  by_cases hlt : m.latest < i
  · have hmax : max i m.latest = i := max_of_lt hlt
    have hne : i ≠ 0 := by
      intro h
      rw [h] at hlt
      exact UInt64.not_lt_zero hlt
    rw [hmax, if_neg hne, if_pos hlt]
  · have hmax : max i m.latest = m.latest := max_of_le (UInt64.not_lt.mp hlt)
    rw [hmax, if_neg hlt]

private theorem deadline?_step (hw : s.Working) (h : s.deadline? p = m.deadline?) (step : Step) :
    (s.step step).deadline? p = ((demand? p s step).toList.foldl Tally.add m).deadline? := by
  cases step with
  | setClock now => exact h
  | operate o =>
    by_cases hswitch : ∃ host, o = .switchHost host
    · obtain ⟨host, rfl⟩ := hswitch
      rw [deadline?_switchHost hw, demand?]
      cases hlast : s.text lastHostKey with
      | none => exact h
      | some previous =>
        dsimp only
        rw [deadline?_clear hw]
        cases hsame : sameHost previous host with
        | true => simpa using h
        | false =>
          by_cases hp : p = .storage previous
          · simp [hp, Tally.add, Tally.deadline?, Tally.latest]
          · have hp' : ¬ Purpose.storage previous = p := fun he => hp he.symm
            simpa [hp, hp'] using h
    · have hquiet : ¬ o.Names p → (s.step (.operate o)).deadline? p = m.deadline? := by
        intro ho
        exact (deadline?_of_not_names hw ho fun host he => hswitch ⟨host, he⟩).trans h
      cases o with
      | extend q delay =>
        by_cases hq : q = p
        · subst hq
          rw [deadline?_extend hw, demand?, if_pos rfl, h, m.getD_deadline?]
          simp [Tally.deadline?_atLeast]
        · rw [hquiet hq, demand?, if_neg hq]
          rfl
      | clear q =>
        by_cases hq : q = p
        · subst hq
          rw [deadline?_clear hw, demand?, if_pos rfl, if_pos rfl]
          rfl
        · rw [hquiet hq, demand?, if_neg hq]
          rfl
      | switchHost host => exact (hswitch ⟨host, rfl⟩).elim
      | _ => exact hquiet id

private theorem deadline?_foldl (hw : s.Working) (h : s.deadline? p = m.deadline?) (steps : List Step) :
    (s.history steps).Working ∧
      (s.history steps).deadline? p = ((demands p s steps).foldl Tally.add m).deadline? := by
  induction steps generalizing s m with
  | nil => exact ⟨hw, h⟩
  | cons step steps ih =>
    have hstep := deadline?_step hw h step
    rw [demands, List.foldl_append]
    exact ih (working_step hw step) hstep

private theorem Tally.deadline?_base (base : Option Instant) : (Tally.mk base []).deadline? = base := by
  unfold Tally.deadline? Tally.latest
  rw [List.foldr_nil]
  cases base with
  | none => rfl
  | some d =>
    by_cases hd : d = 0 <;> simp [hd]

/-- No time is left exactly if the deadline, where there is one, has come. -/
theorem timeLeft_eq (now : Instant) (m : Tally) : timeLeft now m.deadline? = m.latest.toNat - now.toNat := by
  rw [← m.getD_deadline?]
  unfold timeLeft
  cases m.deadline? with
  | none => exact (Nat.zero_sub now.toNat).symm
  | some d => rfl

/-- What a ledger answers about a purpose whose deadline is as a tally has it. -/
structure Tells (s : State) (p : Purpose) (m : Tally) : Prop where
  deadline : s.reply (.deadline p) = .ok m.deadline?
  extend : ∀ delay, s.reply (.extend p delay) = .ok (m.add (.atLeast (after s.clock delay))).latest
  remaining : s.reply (.remaining p) = .ok (m.latest.toNat - s.clock.toNat)
  free : s.reply (.mayProceed p false) = .ok (m.latest ≤ s.clock)
  forced : s.reply (.mayProceed p true) = .ok true

private theorem tells_of_deadline? (hw : s.Working) (h : s.deadline? p = m.deadline?) : Tells s p m := by
  have hlatest : (s.deadline? p).getD 0 = m.latest := by rw [h, m.getD_deadline?]
  have hleft : timeLeft s.clock (s.deadline? p) = m.latest.toNat - s.clock.toNat := by rw [h, timeLeft_eq]
  refine ⟨?_, ?_, ?_, ?_, rfl⟩
  · change ((Ledger.deadline p).run State.answer s).1 = _
    rw [run_deadline hw, h]
  · intro delay
    change ((Ledger.extend p delay).run State.answer s).1 = .ok (max (after s.clock delay) m.latest)
    by_cases hlt : m.latest < after s.clock delay
    · rw [run_extend_of_lt hw (hlatest ▸ hlt), max_of_lt hlt]
    · have hle := UInt64.not_lt.mp hlt
      rw [run_extend_of_le hw (hlatest ▸ hle), max_of_le hle, hlatest]
  · change ((Ledger.remaining p).run State.answer s).1 = _
    rw [run_remaining hw, hleft]
  · change ((Ledger.mayProceed p false).run State.answer s).1 = _
    rw [run_mayProceed hw, hleft]
    have hzero : m.latest.toNat - s.clock.toNat = 0 ↔ m.latest ≤ s.clock := by
      rw [UInt64.le_iff_toNat_le]
      omega
    simp only [hzero]

/-- How a ledger switches storage hosts, and what its operations leave as it is. -/
structure Orderly (s : State) : Prop where
  /-- It is told whether the host was another one before, or none. -/
  changed : ∀ host, s.reply (.switchHost host) =
    .ok (match s.text lastHostKey with | some previous => !sameHost previous host | none => true)
  /-- Deadlines are left as clearing the one of another host before leaves them. -/
  switched : ∀ host p, (s.step (.operate (.switchHost host))).deadline? p =
    match s.text lastHostKey with
    | some previous =>
      if sameHost previous host then s.deadline? p else (s.step (.operate (.clear (.storage previous)))).deadline? p
    | none => s.deadline? p
  apart : ∀ o p, ¬ o.Names p → (∀ host, o ≠ .switchHost host) →
    (s.step (.operate o)).deadline? p = s.deadline? p

private theorem orderly_of_working (hw : s.Working) : Orderly s := by
  refine ⟨?_, fun host p => deadline?_switchHost hw p host, fun o p ho hswitch => deadline?_of_not_names hw ho hswitch⟩
  intro host
  change ((switchHost host).run State.answer s).1 = _
  cases hlast : s.text lastHostKey with
  | none => rw [run_switchHost_of_none hw hlast]
  | some previous =>
    cases hsame : sameHost previous host with
    | true => rw [run_switchHost_of_same hw hlast hsame]; simp [hsame]
    | false => rw [run_switchHost_of_other hw hlast hsame]; simp [hsame]

/-- After any history over a store that works, every purpose has the deadline that the history's tally has. -/
theorem deadlines_of_history (s : State) (hw : s.Working) (steps : List Step) :
    (∀ p, Tells (s.history steps) p (tally p s steps)) ∧ Orderly (s.history steps) := by
  have hrun : ∀ p, (s.history steps).Working ∧ (s.history steps).deadline? p = (tally p s steps).deadline? :=
    fun p => deadline?_foldl hw (Tally.deadline?_base (s.deadline? p)).symm steps
  refine ⟨?_, orderly_of_working (hrun .scheduler).1⟩
  intro p
  obtain ⟨hworking, hdeadline⟩ := hrun p
  exact tells_of_deadline? hworking hdeadline

def worn : State where
  clock := 1000
  store := { entries := [("backoff.token.earliest_next_request", "soon"), ("storage.last_host", "A.EXAMPLE")] }

/-- The clock is set back between two extensions; a switch to the same host drops nothing, and one to another host
drops the deadline of the first. -/
def wear : List Step :=
  [.operate (.extend .tokenServer 500), .setClock 200, .operate (.extend .tokenServer 100),
    .operate (.extend (.storage "a.example") 50), .operate (.switchHost "a.example"),
    .operate (.switchHost "b.example")]

theorem deadlines_of_history_worn : worn.Working ∧
    (worn.history wear).reply (.remaining .tokenServer) = .ok 1300 ∧
    (worn.history wear).reply (.deadline (.storage "A.example")) = .ok none ∧
    (worn.history wear).reply (.switchHost "B.EXAMPLE") = .ok false := by
  obtain ⟨htells, horderly⟩ := deadlines_of_history worn rfl wear
  refine ⟨rfl, ?_, ?_, ?_⟩
  · exact (htells .tokenServer).remaining.trans (congrArg Except.ok (by decide +kernel))
  · exact (htells (.storage "A.example")).deadline.trans (congrArg Except.ok (by decide +kernel))
  · exact (horderly.changed "B.EXAMPLE").trans (congrArg Except.ok (by decide +kernel))

end AccountSync.Ledger
