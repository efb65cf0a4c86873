import AccountSync.Proofs.Ledger.Deadline

/-!
What a ledger has on record, read and written at any times: the state's clock is the time that was last read, and
need not go forward. Over a store that works, `switched_of_reads` says what a switch of storage hosts records and
drops; what does not touch the records leaves them (`SameRecords`).
-/

set_option autoImplicit false
set_option relaxedAutoImplicit false

namespace AccountSync.Ledger

open Dialogue

/-- A question is answered by the ledger; its clock may show any time. -/
def Reads (s : State) (x : Exchange Question.Answer) (s' : State) : Prop :=
  ∃ now, (x.question ≠ .now → now = s.clock) ∧ (x.answer, s') = State.answer x.question { s with clock := now }

def State.drop (s : State) (key : String) : Store.Memory :=
  { s.store with entries := s.store.entries.erase key }

def Question.Writes (q : Question) (key : String) : Prop :=
  (∃ value, q = .store (.set key value)) ∨ q = .store (.remove key)

def Question.Quiet (q : Question) : Prop := ∀ key, ¬ q.Writes key

def Question.Looks : Question → Prop
  | .now => True
  | .store (.get _) => True
  | .skew _ => True
  | _ => False

def Question.Spares (q : Question) : Prop :=
  ¬ q.Writes lastHostKey ∧ ∀ host, ¬ q.Writes (deadlineKey (.storage host))

structure SameRecords (s s' : State) : Prop where
  faults : s'.store.faults = s.store.faults
  lastHost : s'.text lastHostKey = s.text lastHostKey
  deadlines : ∀ host, s'.text (deadlineKey (.storage host)) = s.text (deadlineKey (.storage host))

def reading? : Exchange Question.Answer → Option Instant
  | ⟨.now, now⟩ => some now
  | _ => none

def readings (ms : Moments) : List Instant := (exchangesOf ms).filterMap reading?

theorem reads_answer (question : Question) (s : State) :
    Reads s ⟨question, (State.answer question s).1⟩ (State.answer question s).2 :=
  ⟨s.clock, fun _ => rfl, rfl⟩

private theorem toLower_toLower (c : Char) : c.toLower.toLower = c.toLower := by
  have small : ∀ c : Char, ¬ (c.val ≥ 'A'.val ∧ c.val ≤ 'Z'.val) → c.toLower = c := by
    intro c h
    unfold Char.toLower
    exact dif_neg h
  by_cases h : c.val ≥ 'A'.val ∧ c.val ≤ 'Z'.val
  · refine small _ ?_
    unfold Char.toLower
    rw [dif_pos h]
    simp only [ge_iff_le, UInt32.le_iff_toNat_le, UInt32.toNat_add, UInt32.toNat_sub] at h ⊢
    simp at h ⊢
    omega
  · rw [small c h, small c h]

theorem lowerAscii_lowerAscii (text : String) :
    Text.LetterCase.lowerAscii (Text.LetterCase.lowerAscii text) = Text.LetterCase.lowerAscii text := by
  unfold Text.LetterCase.lowerAscii
  rw [String.toList_ofList, List.map_map]
  congr 1
  exact List.map_congr_left fun c _ => toLower_toLower c

private theorem sameHost_lowerAscii (host : String) : sameHost (Text.LetterCase.lowerAscii host) host = true :=
  decide_eq_true (lowerAscii_lowerAscii host)

theorem sameHost_of_deadlineKey {a b : String} (h : deadlineKey (.storage a) = deadlineKey (.storage b)) :
    sameHost a b = true := by
  have hp := deadlineKey_injective h
  exact decide_eq_true ((String.append_right_inj _).mp hp)

variable {s s' t : State} {ms ns : Moments} {p : Purpose} {host key value : String}

theorem SameRecords.refl (s : State) : SameRecords s s := ⟨rfl, rfl, fun _ => rfl⟩

theorem SameRecords.trans {u : State} (hst : SameRecords s t) (htu : SameRecords t u) : SameRecords s u :=
  ⟨htu.faults.trans hst.faults, htu.lastHost.trans hst.lastHost,
    fun host => (htu.deadlines host).trans (hst.deadlines host)⟩

theorem SameRecords.working (h : SameRecords s s') (hw : s.Working) : s'.Working := h.faults.trans hw

theorem text_of_store (h : s'.store = s.store) (k : String) : s'.text k = s.text k := by
  unfold State.text
  rw [h]

theorem sameRecords_of_store (h : s'.store = s.store) : SameRecords s s' :=
  ⟨congrArg Store.Memory.faults h, text_of_store h _, fun _ => text_of_store h _⟩

@[simp] theorem readings_append : readings (ms ++ ns) = readings ms ++ readings ns := by
  unfold readings
  rw [exchangesOf_append, List.filterMap_append]

private theorem reads_now {a : Instant} (h : Runs Reads s now ms a s') :
    ms = [⟨⟨.now, a⟩, s'⟩] ∧ s' = { s with clock := a } := by
  obtain ⟨rfl, now, _, he⟩ := runs_question_iff.mp h
  cases he
  exact ⟨rfl, rfl⟩

theorem reads_get (hw : s.Working) {a : Except SyncError (Option String)} (h : Runs Reads s (get key) ms a s') :
    ms = [⟨⟨.store (.get key), a⟩, s'⟩] ∧ a = .ok (s.text key) ∧ s' = s := by
  obtain ⟨rfl, now, hnow, he⟩ := runs_question_iff.mp h
  obtain rfl := hnow nofun
  have hf := hw.fault?_eq_none (.get key)
  simp only [State.answer, Store.Memory.answer, hf] at he
  cases he
  exact ⟨rfl, rfl, rfl⟩

theorem reads_set (hw : s.Working) {a : Except SyncError Unit} (h : Runs Reads s (set key value) ms a s') :
    a = .ok () ∧ s' = { s with store := s.put key value } := by
  obtain ⟨rfl, now, hnow, he⟩ := runs_question_iff.mp h
  obtain rfl := hnow nofun
  have hf := hw.fault?_eq_none (.set key value)
  simp only [State.answer, Store.Memory.answer, hf] at he
  cases he
  exact ⟨rfl, rfl⟩

theorem reads_remove (hw : s.Working) {a : Except SyncError Unit} (h : Runs Reads s (remove key) ms a s') :
    a = .ok () ∧ s' = { s with store := s.drop key } := by
  obtain ⟨rfl, now, hnow, he⟩ := runs_question_iff.mp h
  obtain rfl := hnow nofun
  have hf := hw.fault?_eq_none (.remove key)
  simp only [State.answer, Store.Memory.answer, hf] at he
  cases he
  exact ⟨rfl, rfl⟩

theorem reads_skew {a : Int} (h : Runs Reads s (skew host) ms a s') :
    a = s.skew (Text.LetterCase.lowerAscii host) ∧ s' = s := by
  obtain ⟨rfl, now, hnow, he⟩ := runs_question_iff.mp h
  obtain rfl := hnow nofun
  cases he
  exact ⟨rfl, rfl⟩

theorem text_of_put (h : s'.store = s.put key value) (k : String) :
    s'.text k = if k = key then some value else s.text k := by
  unfold State.text
  rw [h]
  exact Store.Entries.get?_insert _ key value k

theorem text_of_drop (h : s'.store = s.drop key) (k : String) :
    s'.text k = if k = key then none else s.text k := by
  unfold State.text
  rw [h]
  exact Store.Entries.get?_erase _ key k

theorem Reads.store_cases {x : Exchange Question.Answer} (h : Reads s x s') :
    s'.store = s.store ∨ (∃ key value, x.question = .store (.set key value) ∧ s'.store = s.put key value) ∨
      ∃ key, x.question = .store (.remove key) ∧ s'.store = s.drop key := by
  obtain ⟨q, a⟩ := x
  obtain ⟨now, _, he⟩ := h
  cases q with
  | now =>
    cases he
    exact .inl rfl
  | skew host =>
    cases he
    exact .inl rfl
  | recordSkew host seconds =>
    cases he
    exact .inl rfl
  | store call =>
    have hs : s'.store = (s.store.answer call).2 := congrArg (fun r => r.2.store) he
    rw [hs]
    cases call with
    | get key =>
      left
      cases hf : s.store.fault? (.get key) <;> simp [Store.Memory.answer, hf]
    | set key value =>
      cases hf : s.store.fault? (.set key value) with
      | none => exact .inr (.inl ⟨key, value, rfl, by simp [Store.Memory.answer, hf, State.put]⟩)
      | some e => exact .inl (by simp [Store.Memory.answer, hf])
    | remove key =>
      cases hf : s.store.fault? (.remove key) with
      | none => exact .inr (.inr ⟨key, rfl, by simp [Store.Memory.answer, hf, State.drop]⟩)
      | some e => exact .inl (by simp [Store.Memory.answer, hf])

theorem Reads.faults_eq {x : Exchange Question.Answer} (h : Reads s x s') :
    s'.store.faults = s.store.faults := by
  rcases h.store_cases with hs | ⟨key, value, _, hs⟩ | ⟨key, _, hs⟩
  · rw [hs]
  · rw [hs]
    rfl
  · rw [hs]
    rfl

theorem Reads.text_eq {x : Exchange Question.Answer} (h : Reads s x s') (hx : ¬ x.question.Writes key) :
    s'.text key = s.text key := by
  rcases h.store_cases with hs | ⟨k, value, hq, hs⟩ | ⟨k, hq, hs⟩
  · exact text_of_store hs key
  · rw [text_of_put hs, if_neg]
    rintro rfl
    exact hx (.inl ⟨value, hq⟩)
  · rw [text_of_drop hs, if_neg]
    rintro rfl
    exact hx (.inr hq)

theorem Reads.sameRecords {x : Exchange Question.Answer} (h : Reads s x s') (hx : x.question.Spares) :
    SameRecords s s' :=
  ⟨h.faults_eq, h.text_eq hx.1, fun host => h.text_eq (hx.2 host)⟩

theorem reads_remaining (hw : s.Working) {a : Except SyncError Nat} (h : Runs Reads s (remaining p) ms a s') :
    readings ms = [s'.clock] ∧ s'.store = s.store ∧
      a = .ok (timeLeft s'.clock (readDeadline (s.text (deadlineKey p)))) := by
  obtain ⟨xs, now, t, rest, hnow, hrest, rfl⟩ := runs_bind_iff.mp h
  obtain ⟨rfl, rfl⟩ := reads_now hnow
  obtain ⟨ys, found, u, zs, hfound, hpure, rfl⟩ := runs_bind_iff.mp hrest
  obtain ⟨rfl, rfl, rfl⟩ := runs_pure_iff.mp hpure
  obtain ⟨us, text, v, vs, hget, hdone, rfl⟩ := runs_bind_iff.mp hfound
  obtain ⟨rfl, rfl, rfl⟩ := runs_pure_iff.mp hdone
  have hworking : ({ s with clock := now } : State).Working := hw
  obtain ⟨rfl, rfl, rfl⟩ := reads_get hworking hget
  exact ⟨rfl, rfl, rfl⟩

/-- A switch to a host: what is on record of it and of the host before it. -/
structure Switched (s : State) (host : String) (s' : State) : Prop where
  current : ∃ last, s'.text lastHostKey = some last ∧ sameHost last host = true
  /-- The deadline of the host before is gone. -/
  dropped : ∀ previous, s.text lastHostKey = some previous → sameHost previous host = false →
    s'.text (deadlineKey (.storage previous)) = none
  /-- All other deadlines of storage hosts still stand. -/
  kept : ∀ other, (∀ previous, s.text lastHostKey = some previous → sameHost previous host = false →
    sameHost other previous = false) → s'.text (deadlineKey (.storage other)) = s.text (deadlineKey (.storage other))

theorem Switched.congr {u u' : State} (h : Switched t host u) (hst : SameRecords s t) (hu : u'.store = u.store) :
    Switched s host u' := by
  have hsame : SameRecords u u' := sameRecords_of_store hu
  refine ⟨?_, ?_, ?_⟩
  · rw [hsame.lastHost]
    exact h.current
  · intro previous hp hdiffers
    rw [hsame.deadlines previous]
    exact h.dropped previous (hst.lastHost.trans hp) hdiffers
  · intro other hother
    rw [hsame.deadlines other, ← hst.deadlines other]
    exact h.kept other fun previous hp => hother previous (hst.lastHost.symm.trans hp)

theorem switched_of_reads (hw : s.Working) {a : Except SyncError Bool}
    (h : Runs Reads s (switchHost host) ms a s') : (∃ changed, a = .ok changed) ∧ s'.Working ∧ Switched s host s' := by
  have hkey : ∀ other, deadlineKey (.storage other) ≠ lastHostKey :=
    fun other => (lastHostKey_ne_deadlineKey (.storage other)).symm
  obtain ⟨xs, last, t, rest, hlast, hrest, rfl⟩ := runs_bind_iff.mp h
  obtain ⟨rfl, rfl, rfl⟩ := reads_get hw hlast
  cases hl : t.text lastHostKey with
  | none =>
    rw [hl] at hrest
    obtain ⟨ys, set, u, zs, hset, hpure, rfl⟩ := runs_bind_iff.mp hrest
    obtain ⟨rfl, rfl, rfl⟩ := runs_pure_iff.mp hpure
    obtain ⟨rfl, rfl⟩ := reads_set hw hset
    refine ⟨⟨true, rfl⟩, hw, ⟨_, ?_, sameHost_lowerAscii host⟩, ?_, ?_⟩
    · rw [text_of_put rfl, if_pos rfl]
    · intro previous hp
      rw [hl] at hp
      cases hp
    · intro other _
      rw [text_of_put rfl, if_neg (hkey other)]
  | some previous =>
    rw [hl] at hrest
    dsimp only at hrest
    cases hsame : sameHost previous host with
    | true =>
      rw [hsame, if_pos rfl] at hrest
      obtain ⟨rfl, rfl, rfl⟩ := runs_pure_iff.mp hrest
      refine ⟨⟨false, rfl⟩, hw, ⟨previous, hl, hsame⟩, ?_, fun _ _ => rfl⟩
      intro previous' hp hdiffers
      rw [hl] at hp
      cases hp
      rw [hsame] at hdiffers
      cases hdiffers
    | false =>
      rw [hsame, if_neg Bool.false_ne_true] at hrest
      obtain ⟨ys, cleared, u, zs, hclear, hset, rfl⟩ := runs_bind_iff.mp hrest
      obtain ⟨rfl, rfl⟩ := reads_remove hw hclear
      obtain ⟨us, set, v, vs, hset, hpure, rfl⟩ := runs_bind_iff.mp hset
      obtain ⟨rfl, rfl, rfl⟩ := runs_pure_iff.mp hpure
      have hworking : ({ t with store := t.drop (deadlineKey (.storage previous)) } : State).Working := hw
      obtain ⟨rfl, rfl⟩ := reads_set hworking hset
      refine ⟨⟨true, rfl⟩, hw, ⟨_, ?_, sameHost_lowerAscii host⟩, ?_, ?_⟩
      · rw [text_of_put rfl, if_pos rfl]
      · intro previous' hp _
        rw [hl] at hp
        cases hp
        rw [text_of_put rfl, if_neg (hkey previous), text_of_drop rfl, if_pos rfl]
      · intro other hother
        have hne : deadlineKey (.storage other) ≠ deadlineKey (.storage previous) := by
          intro he
          have hs := sameHost_of_deadlineKey he
          rw [hother previous hl hsame] at hs
          cases hs
        rw [text_of_put rfl, if_neg (hkey other), text_of_drop rfl, if_neg hne]

section Asks

variable {P : Question → Prop} {p : Purpose}

theorem asks_deadline_of (hget : ∀ key, P (.store (.get key))) : (deadline p).Asks P :=
  asks_bind (asks_question.mpr (hget _)) fun _ => trivial

theorem asks_remaining_of (hnow : P .now) (hget : ∀ key, P (.store (.get key))) : (remaining p).Asks P :=
  asks_bind (asks_question.mpr hnow) fun _ => asks_bind (asks_deadline_of hget) fun _ => trivial

theorem asks_mayProceed_of (hnow : P .now) (hget : ∀ key, P (.store (.get key))) (forced : Bool) :
    (mayProceed p forced).Asks P := by
  cases forced with
  | true => trivial
  | false => exact asks_bind (asks_remaining_of hnow hget) fun _ => trivial

theorem asks_extend_of (hnow : P .now) (hget : ∀ key, P (.store (.get key)))
    (hset : ∀ value, P (.store (.set (deadlineKey p) value))) (delay : Nat) : (extend p delay).Asks P := by
  refine asks_bind (asks_question.mpr hnow) fun now => ?_
  refine asks_bind (asks_deadline_of hget) fun stored => ?_
  cases stored with
  | error e => trivial
  | ok stored =>
    dsimp only
    split
    · trivial
    · refine asks_bind (asks_question.mpr (hset _)) fun kept => ?_
      cases kept <;> trivial

theorem asks_switchHost_of (hget : ∀ key, P (.store (.get key))) (hremove : ∀ key, P (.store (.remove key)))
    (hset : ∀ value, P (.store (.set lastHostKey value))) (host : String) : (switchHost host).Asks P := by
  refine asks_bind (asks_question.mpr (hget _)) fun last => ?_
  rcases last with e | _ | previous
  · trivial
  · exact asks_bind (asks_question.mpr (hset _)) fun _ => trivial
  · dsimp only
    split
    · trivial
    · refine asks_bind (asks_question.mpr (hremove _)) fun cleared => ?_
      cases cleared with
      | error e => trivial
      | ok _ => exact asks_bind (asks_question.mpr (hset _)) fun _ => trivial

theorem asks_observeClock_of (hnow : P .now) (hskew : ∀ host, P (.skew host))
    (hrecord : ∀ host seconds, P (.recordSkew host seconds)) (host : String) (server : Instant) :
    (observeClock host server).Asks P := by
  refine asks_bind (asks_question.mpr hnow) fun now => ?_
  cases skewBetween? server now with
  | none => exact asks_question.mpr (hskew _)
  | some seconds => exact asks_bind (asks_question.mpr (hrecord _ seconds)) fun _ => trivial

theorem asks_adjustedNow_of (hnow : P .now) (hskew : ∀ host, P (.skew host)) (host : String) :
    (adjustedNow host).Asks P :=
  asks_bind (asks_question.mpr hnow) fun _ => asks_bind (asks_question.mpr (hskew _)) fun _ => trivial

end Asks

theorem looks_now : now.Asks Question.Looks := asks_question.mpr trivial

theorem looks_adjustedNow (host : String) : (adjustedNow host).Asks Question.Looks :=
  asks_adjustedNow_of trivial (fun _ => trivial) host

section Spares

variable {α : Type}

private theorem Question.Quiet.spares {q : Question} (h : q.Quiet) : q.Spares := ⟨h _, fun _ => h _⟩

theorem quiet_of_not_store {q : Question} (h : ∀ call, q ≠ .store call) : q.Quiet := by
  rintro key (⟨value, rfl⟩ | rfl)
  · exact h _ rfl
  · exact h _ rfl

theorem quiet_get (key : String) : (Question.store (.get key)).Quiet := by
  rintro k (⟨value, h⟩ | h) <;> cases h

private theorem spares_set (hp : Lasting p) (value : String) :
    (Question.store (.set (deadlineKey p) value)).Spares := by
  refine ⟨?_, fun host => ?_⟩
  · rintro (⟨value', h⟩ | h)
    · injection h with h
      injection h with h
      exact lastHostKey_ne_deadlineKey p h.symm
    · cases h
  · rintro (⟨value', h⟩ | h)
    · injection h with h
      injection h with h
      exact hp host (deadlineKey_injective h)
    · cases h

theorem quiet_now : Question.now.Quiet := quiet_of_not_store nofun

theorem asks_now : now.Asks Question.Quiet := asks_question.mpr quiet_now

theorem asks_deadline (p : Purpose) : (deadline p).Asks Question.Quiet := asks_deadline_of quiet_get

theorem asks_remaining (p : Purpose) : (remaining p).Asks Question.Quiet := asks_remaining_of quiet_now quiet_get

theorem asks_mayProceed (p : Purpose) (forced : Bool) : (mayProceed p forced).Asks Question.Quiet :=
  asks_mayProceed_of quiet_now quiet_get forced

private theorem quiet_skew (host : String) : (Question.skew host).Quiet := quiet_of_not_store nofun

theorem asks_skew (host : String) : (skew host).Asks Question.Quiet := asks_question.mpr (quiet_skew _)

theorem asks_observeClock (host : String) (server : Instant) : (observeClock host server).Asks Question.Quiet :=
  asks_observeClock_of quiet_now quiet_skew (fun _ _ => quiet_of_not_store nofun) host server

theorem asks_adjustedNow (host : String) : (adjustedNow host).Asks Question.Quiet :=
  asks_adjustedNow_of quiet_now quiet_skew host

theorem spares_of_quiet {t : Talk α} (h : t.Asks Question.Quiet) : t.Asks Question.Spares :=
  h.mono fun _ hq => hq.spares

theorem asks_extend (hp : Lasting p) (delay : Nat) : (extend p delay).Asks Question.Spares :=
  asks_extend_of quiet_now.spares (fun key => (quiet_get key).spares) (spares_set hp) delay

end Spares

end AccountSync.Ledger
