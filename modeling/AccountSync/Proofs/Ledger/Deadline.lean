import AccountSync.Ledger.State
import AccountSync.Proofs.Dialogue.Runs

/-!
What operations on a ledger do to its deadlines while time passes and nobody else writes to its store.
`Extending` lists the ways through an extension. Main statements: `Extending.reaches`, that an extended deadline is
far enough ahead, and `Forward`, which says of two states that no deadline of the later one is earlier, other
than of storage hosts; it is shown of every operation.
-/

set_option autoImplicit false
set_option relaxedAutoImplicit false

namespace AccountSync.Ledger

open Dialogue

private theorem digits?_toDigits (n : Nat) : Text.Decimal.digits? (Nat.toDigits 10 n) = some n := by
  have hne : (Nat.toDigits 10 n).isEmpty = false := by
    rw [List.isEmpty_eq_false_iff]
    exact Nat.toDigits_ne_nil
  have hall : (Nat.toDigits 10 n).all Char.isDigit = true := by
    rw [List.all_eq_true]
    intro c hc
    exact Nat.isDigit_of_mem_toDigits (by decide) (by decide) hc
  have hval : (Nat.toDigits 10 n).foldl (fun n c => 10 * n + (c.toNat - 48)) 0 = n :=
    Nat.ofDigitChars_ten_toDigits
  unfold Text.Decimal.digits?
  simp only [hne, hall, hval, Bool.false_eq_true, not_true_eq_false, or_false, if_false]

private theorem word?_toString {n : Nat} (h : n < UInt64.size) : Text.Decimal.word? (toString n) = some n := by
  have hplus : ∀ cs, Nat.toDigits 10 n ≠ '+' :: cs := by
    intro cs he
    have hmem : '+' ∈ Nat.toDigits 10 n := he ▸ List.mem_cons_self
    have hdigit := Nat.isDigit_of_mem_toDigits (by decide) (by decide) hmem
    exact absurd hdigit (by decide)
  have hlist : (toString n).toList = Nat.toDigits 10 n := Nat.toList_repr
  unfold Text.Decimal.word? Text.Decimal.natural?
  rw [hlist]
  split
  · rename_i cs he
    exact (hplus cs he).elim
  · rw [digits?_toDigits]
    simp [h]

theorem readDeadline_toString (deadline : Instant) :
    readDeadline (some (toString deadline.toNat)) = some deadline := by
  unfold readDeadline
  rw [Option.bind_some, word?_toString deadline.toNat_lt_size]
  simp

theorem deadlineKey_injective {p q : Purpose} (h : deadlineKey p = deadlineKey q) : p = q := by
  unfold deadlineKey at h
  have hprefix := (String.append_left_inj _).mp h
  exact (String.append_right_inj _).mp hprefix

theorem lastHostKey_ne_deadlineKey (p : Purpose) : lastHostKey ≠ deadlineKey p := by
  intro h
  have hl := congrArg String.toList h
  unfold lastHostKey deadlineKey at hl
  rw [String.toList_append, String.toList_append] at hl
  injection hl with hc _
  exact absurd hc (by decide)

/-- A purpose other than a storage host; its deadline is never dropped. -/
def Lasting (p : Purpose) : Prop := ∀ host, p ≠ .storage host

theorem lasting_scheduler : Lasting .scheduler := by
  intro host h
  have hl := congrArg String.toList h
  unfold Purpose.storage at hl
  rw [String.toList_append] at hl
  injection hl with _ hl
  injection hl with hc _
  exact absurd hc (by decide)

theorem lasting_tokenServer : Lasting .tokenServer := by
  intro host h
  have hl := congrArg String.toList h
  unfold Purpose.storage at hl
  rw [String.toList_append] at hl
  injection hl with hc _
  exact absurd hc (by decide)

theorem after_mono {a b : Instant} (h : a ≤ b) (delay : Nat) : after a delay ≤ after b delay := by
  rw [UInt64.le_iff_toNat_le] at h ⊢
  rw [toNat_after, toNat_after]
  omega

theorem le_after (instant : Instant) (delay : Nat) : instant ≤ after instant delay := by
  have hlt := instant.toNat_lt_size
  rw [UInt64.le_iff_toNat_le, toNat_after]
  unfold maxMillis
  omega

abbrev Moments := List (Moment Question.Answer State)

/-- A question is answered by the ledger, some time after the moment before it. -/
def Passes (s : State) (x : Exchange Question.Answer) (s' : State) : Prop :=
  ∃ now, s.clock ≤ now ∧ (x.answer, s') = State.answer x.question { s with clock := now }

theorem Passes.clock_le {s s' : State} {x : Exchange Question.Answer} (h : Passes s x s') :
    s.clock ≤ s'.clock := by
  obtain ⟨q, a⟩ := x
  obtain ⟨now, hle, he⟩ := h
  cases q with
  | now =>
    cases he
    exact hle
  | store call =>
    cases he
    exact hle
  | skew host =>
    cases he
    exact hle
  | recordSkew host seconds =>
    cases he
    exact hle

theorem clock_le_of_follows {s s' : State} {ms : Moments} (h : Follows Passes s ms s') : s.clock ≤ s'.clock :=
  h.keeps (R := fun a b => a.clock ≤ b.clock) (fun _ => UInt64.le_refl _) (fun _ _ _ => UInt64.le_trans)
    fun _ _ _ hp => hp.clock_le

namespace State

def Working (s : State) : Prop := s.store.faults = []

def text (s : State) (key : String) : Option String := s.store.entries.get? key

/-- The deadline of a purpose; the beginning of time if there is none. -/
def earliest (s : State) (p : Purpose) : Instant := (readDeadline (s.text (deadlineKey p))).getD 0

def put (s : State) (key value : String) : Store.Memory :=
  { s.store with entries := s.store.entries.insert key value }

end State

def Still (s s' : State) : Prop := s.clock ≤ s'.clock ∧ s'.store = s.store

variable {s s' t u : State} {ms : Moments} {p : Purpose} {delay : Nat}

theorem Still.trans (hst : Still s t) (htu : Still t u) : Still s u :=
  ⟨UInt64.le_trans hst.1 htu.1, htu.2.trans hst.2⟩

theorem State.Working.fault?_eq_none (h : s.Working) (call : Store.Call) : s.store.fault? call = none := by
  unfold State.Working at h
  unfold Store.Memory.fault?
  rw [h]
  rfl

theorem Still.earliest_eq (h : Still s s') (p : Purpose) : s'.earliest p = s.earliest p := by
  unfold State.earliest State.text
  rw [h.2]

theorem still_of_now {a : Instant} (h : Runs Passes s now ms a s') :
    ms = [⟨⟨.now, s'.clock⟩, s'⟩] ∧ a = s'.clock ∧ Still s s' := by
  obtain ⟨rfl, now, hle, he⟩ := runs_question_iff.mp h
  cases he
  exact ⟨rfl, rfl, hle, rfl⟩

private theorem still_of_get {key : String} {a : Except SyncError (Option String)}
    (h : Runs Passes s (get key) ms a s') : ms = [⟨⟨.store (.get key), a⟩, s'⟩] ∧ Still s s' ∧
      (a = .ok (s.text key) ∨ ¬ s.Working ∧ ∃ e, a = .error e) := by
  obtain ⟨rfl, now, hle, he⟩ := runs_question_iff.mp h
  cases hf : s.store.fault? (.get key) with
  | none =>
    simp only [State.answer, Store.Memory.answer, hf] at he
    cases he
    exact ⟨rfl, ⟨hle, rfl⟩, .inl rfl⟩
  | some e =>
    simp only [State.answer, Store.Memory.answer, hf] at he
    cases he
    refine ⟨rfl, ⟨hle, rfl⟩, .inr ⟨?_, e, rfl⟩⟩
    intro hw
    rw [hw.fault?_eq_none] at hf
    cases hf

private theorem put_of_set {key value : String} {a : Except SyncError Unit}
    (h : Runs Passes s (set key value) ms a s') : ms = [⟨⟨.store (.set key value), a⟩, s'⟩] ∧ s.clock ≤ s'.clock ∧
      (a = .ok () ∧ s'.store = s.put key value ∨ ¬ s.Working ∧ (∃ e, a = .error e) ∧ s'.store = s.store) := by
  obtain ⟨rfl, now, hle, he⟩ := runs_question_iff.mp h
  cases hf : s.store.fault? (.set key value) with
  | none =>
    simp only [State.answer, Store.Memory.answer, hf] at he
    cases he
    exact ⟨rfl, hle, .inl ⟨rfl, rfl⟩⟩
  | some e =>
    simp only [State.answer, Store.Memory.answer, hf] at he
    cases he
    refine ⟨rfl, hle, .inr ⟨?_, ⟨e, rfl⟩, rfl⟩⟩
    intro hw
    rw [hw.fault?_eq_none] at hf
    cases hf

private theorem erased_of_remove {key : String} {a : Except SyncError Unit}
    (h : Runs Passes s (remove key) ms a s') : s.clock ≤ s'.clock ∧ s'.store.faults = s.store.faults ∧
      ∀ k, k ≠ key → s'.text k = s.text k := by
  obtain ⟨rfl, now, hle, he⟩ := runs_question_iff.mp h
  cases hf : s.store.fault? (.remove key) with
  | none =>
    simp only [State.answer, Store.Memory.answer, hf] at he
    cases he
    refine ⟨hle, rfl, ?_⟩
    intro k hk
    exact (Store.Entries.get?_erase _ key k).trans (if_neg hk)
  | some e =>
    simp only [State.answer, Store.Memory.answer, hf] at he
    cases he
    exact ⟨hle, rfl, fun _ _ => rfl⟩

/-- The ways through an extension: the clock is read first, then the deadline, and a later one is written. -/
inductive Extending (p : Purpose) (delay : Nat) : State → Moments → Except SyncError Instant → State → Prop
  | unread {s t s' : State} {e : SyncError} : Still s t → Still t s' → ¬ s.Working →
      Extending p delay s [⟨⟨.now, t.clock⟩, t⟩, ⟨⟨.store (.get (deadlineKey p)), .error e⟩, s'⟩] (.error e) s'
  | standing {s t s' : State} {text : Option String} : Still s t → Still t s' →
      after t.clock delay ≤ s.earliest p →
      Extending p delay s [⟨⟨.now, t.clock⟩, t⟩, ⟨⟨.store (.get (deadlineKey p)), .ok text⟩, s'⟩]
        (.ok (s.earliest p)) s'
  | unkept {s t u s' : State} {text : Option String} {value : String} {e : SyncError} :
      Still s t → Still t u → Still u s' → ¬ s.Working →
      Extending p delay s
        [⟨⟨.now, t.clock⟩, t⟩, ⟨⟨.store (.get (deadlineKey p)), .ok text⟩, u⟩,
          ⟨⟨.store (.set (deadlineKey p) value), .error e⟩, s'⟩] (.error e) s'
  | moved {s t u s' : State} {text : Option String} {value : String} : Still s t → Still t u →
      u.clock ≤ s'.clock → s'.store = u.put (deadlineKey p) (toString (after t.clock delay).toNat) →
      s.earliest p < after t.clock delay →
      Extending p delay s
        [⟨⟨.now, t.clock⟩, t⟩, ⟨⟨.store (.get (deadlineKey p)), .ok text⟩, u⟩,
          ⟨⟨.store (.set (deadlineKey p) value), .ok ()⟩, s'⟩] (.ok (after t.clock delay)) s'

theorem extending_of_runs {r : Except SyncError Instant} (h : Runs Passes s (extend p delay) ms r s') :
    Extending p delay s ms r s' := by
  obtain ⟨xs, now, t, rest, hnow, hrest, rfl⟩ := runs_bind_iff.mp h
  obtain ⟨rfl, rfl, hst⟩ := still_of_now hnow
  obtain ⟨ys, stored, u, zs, hdeadline, hset, rfl⟩ := runs_bind_iff.mp hrest
  obtain ⟨vs, text, v, ws, hget, hpure, rfl⟩ := runs_bind_iff.mp hdeadline
  obtain ⟨rfl, htv, hread⟩ := still_of_get hget
  obtain ⟨rfl, rfl, rfl⟩ := runs_pure_iff.mp hpure
  cases text with
  | error e =>
    obtain ⟨rfl, rfl, rfl⟩ := runs_pure_iff.mp hset
    rcases hread with hread | ⟨hfault, _⟩
    · cases hread
    · refine .unread hst htv ?_
      unfold State.Working at hfault ⊢
      rwa [hst.2] at hfault
  | ok text =>
    have htext : text = s.text (deadlineKey p) := by
      rcases hread with hread | ⟨_, e, hread⟩
      · cases hread
        unfold State.text
        rw [hst.2]
      · cases hread
    have hearliest : (readDeadline text).getD 0 = s.earliest p := by
      rw [htext]
      rfl
    dsimp only [Except.map] at hset
    rw [hearliest] at hset
    split at hset
    · rename_i hle
      obtain ⟨rfl, rfl, rfl⟩ := runs_pure_iff.mp hset
      exact .standing hst htv hle
    · rename_i hnle
      obtain ⟨as, kept, w, bs, hput, hdone, rfl⟩ := runs_bind_iff.mp hset
      obtain ⟨rfl, hle, hkept⟩ := put_of_set hput
      cases kept with
      | error e =>
        obtain ⟨rfl, rfl, rfl⟩ := runs_pure_iff.mp hdone
        rcases hkept with ⟨hok, _⟩ | ⟨hfault, _, hstore⟩
        · cases hok
        · refine .unkept hst htv ⟨hle, hstore⟩ ?_
          unfold State.Working at hfault ⊢
          rwa [(hst.trans htv).2] at hfault
      | ok _ =>
        obtain ⟨rfl, rfl, rfl⟩ := runs_pure_iff.mp hdone
        rcases hkept with ⟨_, hstore⟩ | ⟨_, ⟨e, he⟩, _⟩
        · exact .moved hst htv hle hstore (UInt64.not_le.mp hnle)
        · cases he

theorem earliest_of_put {key value : String} (h : s'.store = s.put key value) (q : Purpose) :
    s'.earliest q = if deadlineKey q = key then (readDeadline (some value)).getD 0 else s.earliest q := by
  unfold State.earliest State.text
  rw [h]
  unfold State.put
  rw [Store.Entries.get?_insert]
  split <;> rfl

/-- A later state of a ledger: time goes on, and no deadline that is to last has become earlier. -/
structure Forward (s s' : State) : Prop where
  clock : s.clock ≤ s'.clock
  faults : s'.store.faults = s.store.faults
  earliest : ∀ p, Lasting p → s.earliest p ≤ s'.earliest p

theorem Forward.refl (s : State) : Forward s s :=
  ⟨UInt64.le_refl _, rfl, fun _ _ => UInt64.le_refl _⟩

theorem Forward.trans (hst : Forward s t) (htu : Forward t u) : Forward s u := by
  refine ⟨UInt64.le_trans hst.clock htu.clock, htu.faults.trans hst.faults, ?_⟩
  intro p hp
  exact UInt64.le_trans (hst.earliest p hp) (htu.earliest p hp)

theorem Forward.working (h : Forward s s') (hw : s.Working) : s'.Working :=
  h.faults.trans hw

theorem Still.forward (h : Still s s') : Forward s s' := by
  refine ⟨h.1, congrArg Store.Memory.faults h.2, ?_⟩
  intro p _
  rw [h.earliest_eq p]
  exact UInt64.le_refl _

theorem Extending.forward {r : Except SyncError Instant} (h : Extending p delay s ms r s') : Forward s s' := by
  cases h with
  | unread hst hts _ => exact (hst.trans hts).forward
  | standing hst hts _ => exact (hst.trans hts).forward
  | unkept hst htu hus _ => exact ((hst.trans htu).trans hus).forward
  | @moved t u _ text value hst htu hle hstore hlt =>
    have hsu := (hst.trans htu).forward
    refine ⟨UInt64.le_trans hsu.clock hle, ?_, ?_⟩
    · rw [hstore]
      exact hsu.faults
    · intro q hq
      rw [earliest_of_put hstore q]
      split
      · rename_i hkey
        obtain rfl := deadlineKey_injective hkey
        rw [readDeadline_toString]
        exact UInt64.le_of_lt hlt
      · exact hsu.earliest q hq

/-- In a store that works the deadline is then as far ahead of the clock as was asked for. -/
theorem Extending.reaches {r : Except SyncError Instant} (h : Extending p delay s ms r s') (hw : s.Working) :
    ∃ t rest, ms = ⟨⟨.now, t.clock⟩, t⟩ :: rest ∧ s.clock ≤ t.clock ∧
      (∀ m ∈ rest, m.exchange.question ≠ .now) ∧ after t.clock delay ≤ s'.earliest p := by
  cases h with
  | unread _ _ hfault => exact (hfault hw).elim
  | @standing t _ _ hst hts hle =>
    refine ⟨t, _, rfl, hst.1, by simp, ?_⟩
    rwa [(hst.trans hts).earliest_eq p]
  | unkept _ _ _ hfault => exact (hfault hw).elim
  | @moved t u _ _ _ hst htu hle hstore hlt =>
    refine ⟨t, _, rfl, hst.1, by simp, ?_⟩
    rw [earliest_of_put hstore p, if_pos rfl, readDeadline_toString]
    exact UInt64.le_refl _

theorem Extending.exists_ok {r : Except SyncError Instant} (h : Extending p delay s ms r s') (hw : s.Working) :
    ∃ deadline, r = .ok deadline := by
  cases h with
  | unread _ _ hfault => exact (hfault hw).elim
  | standing _ _ _ => exact ⟨_, rfl⟩
  | unkept _ _ _ hfault => exact (hfault hw).elim
  | moved _ _ _ _ _ => exact ⟨_, rfl⟩

/-- Whatever the ledger is like, an operation takes no lasting deadline back. -/
def Advances {α : Type} (t : Talk α) : Prop :=
  ∀ s ms r s', Runs Passes s t ms r s' → Forward s s'

variable {α β : Type}

theorem advances_pure (a : α) : Advances (pure a : Talk α) := by
  intro s ms r s' h
  obtain ⟨_, _, rfl⟩ := runs_pure_iff.mp h
  exact .refl _

theorem advances_bind {d : Talk α} {f : α → Talk β} (hd : Advances d) (hf : ∀ a, Advances (f a)) :
    Advances (d >>= f) := by
  intro s ms r s' h
  obtain ⟨xs, a, t, ys, hx, hy, rfl⟩ := runs_bind_iff.mp h
  exact (hd _ _ _ _ hx).trans (hf a _ _ _ _ hy)

theorem advances_now : Advances now := by
  intro s ms r s' h
  exact (still_of_now h).2.2.forward

private theorem advances_get (key : String) : Advances (get key) := by
  intro s ms r s' h
  exact (still_of_get h).2.1.forward

theorem advances_skew (host : String) : Advances (skew host) := by
  intro s ms r s' h
  obtain ⟨_, now, hle, he⟩ := runs_question_iff.mp h
  cases he
  exact Still.forward ⟨hle, rfl⟩

private theorem advances_recordSkew (host : String) (seconds : Int) : Advances (recordSkew host seconds) := by
  intro s ms r s' h
  obtain ⟨_, now, hle, he⟩ := runs_question_iff.mp h
  cases he
  exact Still.forward ⟨hle, rfl⟩

private theorem advances_deadline (p : Purpose) : Advances (deadline p) :=
  advances_bind (advances_get _) fun _ => advances_pure _

theorem advances_remaining (p : Purpose) : Advances (remaining p) :=
  advances_bind advances_now fun _ => advances_bind (advances_deadline p) fun _ => advances_pure _

theorem advances_mayProceed (p : Purpose) (forced : Bool) : Advances (mayProceed p forced) := by
  cases forced with
  | true => exact advances_pure _
  | false => exact advances_bind (advances_remaining p) fun _ => advances_pure _

theorem advances_extend (p : Purpose) (delay : Nat) : Advances (extend p delay) := by
  intro s ms r s' h
  exact (extending_of_runs h).forward

private theorem advances_clear (host : String) : Advances (clear (.storage host)) := by
  intro s ms r s' h
  obtain ⟨hclock, hfaults, htext⟩ := erased_of_remove h
  refine ⟨hclock, hfaults, ?_⟩
  intro p hp
  have hkey : deadlineKey p ≠ deadlineKey (.storage host) := fun he => hp host (deadlineKey_injective he)
  unfold State.earliest
  rw [htext _ hkey]
  exact UInt64.le_refl _

private theorem advances_setLastHost (host : String) : Advances (setLastHost host) := by
  intro s ms r s' h
  obtain ⟨_, hclock, ⟨_, hstore⟩ | ⟨_, _, hstore⟩⟩ := put_of_set h
  · refine ⟨hclock, ?_, ?_⟩
    · rw [hstore]
      rfl
    intro p _
    rw [earliest_of_put hstore p, if_neg (lastHostKey_ne_deadlineKey p).symm]
    exact UInt64.le_refl _
  · exact Still.forward ⟨hclock, hstore⟩

theorem advances_switchHost (host : String) : Advances (switchHost host) := by
  refine advances_bind (advances_get _) fun previous => ?_
  cases previous with
  | error e => exact advances_pure _
  | ok previous =>
    cases previous with
    | none => exact advances_bind (advances_setLastHost host) fun _ => advances_pure _
    | some previous =>
      dsimp only
      split
      · exact advances_pure _
      · refine advances_bind (advances_clear previous) fun cleared => ?_
        cases cleared with
        | error e => exact advances_pure _
        | ok _ => exact advances_bind (advances_setLastHost host) fun _ => advances_pure _

theorem advances_observeClock (host : String) (server : Instant) : Advances (observeClock host server) := by
  refine advances_bind advances_now fun now => ?_
  cases skewBetween? server now with
  | none => exact advances_skew host
  | some seconds => exact advances_bind (advances_recordSkew host seconds) fun _ => advances_pure _

theorem advances_adjustedNow (host : String) : Advances (adjustedNow host) :=
  advances_bind advances_now fun _ => advances_bind (advances_skew host) fun _ => advances_pure _

theorem free_of_mayProceed (h : Runs Passes s (mayProceed p false) ms (.ok true) s') :
    ∃ t rest, ms = ⟨⟨.now, t.clock⟩, t⟩ :: rest ∧ s.earliest p ≤ t.clock := by
  obtain ⟨xs, left, t, ys, hleft, hpure, rfl⟩ := runs_bind_iff.mp h
  obtain ⟨rfl, hzero, rfl⟩ := runs_pure_iff.mp hpure
  obtain ⟨us, now, u, vs, hnow, hrest, rfl⟩ := runs_bind_iff.mp hleft
  obtain ⟨rfl, rfl, hsu⟩ := still_of_now hnow
  obtain ⟨as, found, v, bs, hdeadline, hpure, rfl⟩ := runs_bind_iff.mp hrest
  obtain ⟨rfl, rfl, rfl⟩ := runs_pure_iff.mp hpure
  obtain ⟨cs, text, w, ds, hget, hpure, rfl⟩ := runs_bind_iff.mp hdeadline
  obtain ⟨rfl, rfl, rfl⟩ := runs_pure_iff.mp hpure
  obtain ⟨rfl, _, hread⟩ := still_of_get hget
  refine ⟨u, _, rfl, ?_⟩
  rcases hread with rfl | ⟨_, e, rfl⟩
  · have hleft : timeLeft u.clock (readDeadline (u.text (deadlineKey p))) = 0 := by
      simpa [Except.map] using hzero
    have htext : u.text (deadlineKey p) = s.text (deadlineKey p) := by
      unfold State.text
      rw [hsu.2]
    rw [htext] at hleft
    unfold State.earliest
    cases hd : readDeadline (s.text (deadlineKey p)) with
    | none => exact UInt64.zero_le
    | some d =>
      rw [hd] at hleft
      change d.toNat - u.clock.toNat = 0 at hleft
      rw [Option.getD_some, UInt64.le_iff_toNat_le]
      omega
  · cases hzero

end AccountSync.Ledger
