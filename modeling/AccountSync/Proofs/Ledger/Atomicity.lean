import AccountSync.Proofs.Ledger.Chronicle
import AccountSync.Proofs.Store.Persistence

/-!
What is left in the store when an operation on a ledger fails. Any call of the store may fail, each time or now and
then, as long as it leaves the entries as they were (`Falters`). Main statement: `store_of_failure`. Operations that
write once leave the store as it was; a switch of storage hosts writes twice, and may be broken off in between
(`HalfSwitched`).
-/

set_option autoImplicit false
set_option relaxedAutoImplicit false

namespace AccountSync

namespace Store

private theorem Memory.answer_of_failed {m : Memory} {c : Call} (h : c.isOk (m.answer c).1 = false) :
    (m.answer c).2 = m := by
  cases c with
  | get key => cases hf : m.fault? (.get key) <;> simp only [Memory.answer, hf]
  | set key value =>
    cases hf : m.fault? (.set key value) with
    | none =>
      simp only [Memory.answer, hf] at h
      cases h
    | some e => simp only [Memory.answer, hf]
  | remove key =>
    cases hf : m.fault? (.remove key) with
    | none =>
      simp only [Memory.answer, hf] at h
      cases h
    | some e => simp only [Memory.answer, hf]

end Store

namespace Ledger

open Dialogue

/-- A question is answered, at any time, or it is a call of the store that fails and leaves all as it was. -/
inductive Falters (s : State) : Exchange Question.Answer → State → Prop
  | answers {x : Exchange Question.Answer} {s' : State} : Reads s x s' → Falters s x s'
  | fails (c : Store.Call) (a : c.Answer) : c.isOk a = false → Falters s ⟨.store c, a⟩ s

/-- A switch of storage hosts that dropped the deadline of the host before and could not record the new one then. -/
structure HalfSwitched (s : State) (host : String) (e : SyncError) (xs : List (Exchange Question.Answer))
    (s' : State) (previous : String) : Prop where
  recorded : s.text lastHostKey = some previous
  other : sameHost previous host = false
  exchanges : xs = [⟨.store (.get lastHostKey), .ok (some previous)⟩,
    ⟨.store (.remove (deadlineKey (.storage previous))), .ok ()⟩,
    ⟨.store (.set lastHostKey (Text.LetterCase.lowerAscii host)), .error e⟩]
  store : s'.store = s.drop (deadlineKey (.storage previous))

variable {α : Type} {s s' : State} {ms : Moments} {p : Purpose} {host previous key value : String} {delay : Nat}
  {e : SyncError}

private theorem Falters.store_of_failed {c : Store.Call} {a : c.Answer} (h : Falters s ⟨.store c, a⟩ s')
    (ha : c.isOk a = false) : s'.store = s.store := by
  cases h with
  | fails => rfl
  | answers hr =>
    obtain ⟨now, _, he⟩ := hr
    have hanswer : a = (s.store.answer c).1 := congrArg Prod.fst he
    have hstore : s'.store = (s.store.answer c).2 := congrArg (fun r => r.2.store) he
    subst hanswer
    rw [hstore, Store.Memory.answer_of_failed ha]

private theorem Falters.store_of_quiet {x : Exchange Question.Answer} (h : Falters s x s') (hx : x.question.Quiet) :
    s'.store = s.store := by
  cases h with
  | fails => rfl
  | answers hr =>
    rcases hr.store_cases with hs | ⟨key, value, hset, _⟩ | ⟨key, hremove, _⟩
    · exact hs
    · exact (hx key (.inl ⟨value, hset⟩)).elim
    · exact (hx key (.inr hremove)).elim

private theorem falters_of_quiet {d : Talk α} {a : α} (h : Runs Falters s d ms a s') (hd : d.Asks Question.Quiet) :
    s'.store = s.store := by
  have htrans : ∀ s t u : State, t.store = s.store → u.store = t.store → u.store = s.store :=
    fun _ _ _ hst htu => htu.trans hst
  refine h.2.keeps (R := fun s s' => s'.store = s.store) (fun _ => rfl) htrans ?_
  intro t m hm hmove
  exact hmove.store_of_quiet (hd.of_course h.1 m.exchange (List.mem_map_of_mem hm))

private theorem falters_get {a : Except SyncError (Option String)} (h : Runs Falters s (get key) ms a s') :
    ms = [⟨⟨.store (.get key), a⟩, s'⟩] ∧ s' = s ∧ (a = .ok (s.text key) ∨ ∃ e, a = .error e) := by
  obtain ⟨rfl, hmove⟩ := runs_question_iff.mp h
  refine ⟨rfl, ?_⟩
  cases hmove with
  | answers hr => exact ok_or_error_of_get (runs_question_iff.mpr ⟨rfl, hr⟩)
  | fails _ _ ha =>
    cases a with
    | error e => exact ⟨rfl, .inr ⟨e, rfl⟩⟩
    | ok text => cases ha

private theorem falters_set {a : Except SyncError Unit} (h : Runs Falters s (set key value) ms a s') :
    ms = [⟨⟨.store (.set key value), a⟩, s'⟩] ∧ ∀ e, a = .error e → s'.store = s.store := by
  obtain ⟨rfl, hmove⟩ := runs_question_iff.mp h
  refine ⟨rfl, ?_⟩
  rintro e rfl
  exact hmove.store_of_failed rfl

private theorem falters_remove {a : Except SyncError Unit} (h : Runs Falters s (remove key) ms a s') :
    ms = [⟨⟨.store (.remove key), a⟩, s'⟩] ∧ (∀ e, a = .error e → s'.store = s.store) ∧
      (a = .ok () → s'.store = s.drop key) := by
  obtain ⟨rfl, hmove⟩ := runs_question_iff.mp h
  refine ⟨rfl, ?_, ?_⟩
  · rintro e rfl
    exact hmove.store_of_failed rfl
  · rintro rfl
    cases hmove with
    | fails _ _ ha => cases ha
    | answers hr =>
      obtain ⟨now, _, he⟩ := hr
      cases hf : s.store.fault? (.remove key) with
      | none =>
        simp only [State.answer, Store.Memory.answer, hf] at he
        cases he
        rfl
      | some e =>
        simp only [State.answer, Store.Memory.answer, hf] at he
        cases he

/-- An extension writes last, so nothing has changed when it fails. -/
theorem store_of_extend (h : Runs Falters s (extend p delay) ms (.error e) s') : s'.store = s.store := by
  obtain ⟨xs, now, t, rest, hnow, hrest, rfl⟩ := runs_bind_iff.mp h
  obtain ⟨ys, stored, u, zs, hstored, hwrite, rfl⟩ := runs_bind_iff.mp hrest
  have ht : t.store = s.store := falters_of_quiet hnow asks_now
  have hu : u.store = t.store := falters_of_quiet hstored (asks_deadline p)
  rw [← ht, ← hu]
  cases stored with
  | error e' =>
    obtain ⟨-, -, rfl⟩ := runs_pure_iff.mp hwrite
    rfl
  | ok stored =>
    dsimp only at hwrite
    split at hwrite
    · obtain ⟨-, hr, -⟩ := runs_pure_iff.mp hwrite
      cases hr
    · obtain ⟨vs, kept, v, ws, hset, hdone, rfl⟩ := runs_bind_iff.mp hwrite
      cases kept with
      | ok _ =>
        obtain ⟨-, hr, -⟩ := runs_pure_iff.mp hdone
        cases hr
      | error e' =>
        obtain ⟨-, -, rfl⟩ := runs_pure_iff.mp hdone
        exact (falters_set hset).2 e' rfl

private theorem store_of_recording
    (h : Runs Falters s (do let set ← setLastHost host; pure (set.map fun _ => true)) ms (.error e) s') :
    exchangesOf ms = [⟨.store (.set lastHostKey (Text.LetterCase.lowerAscii host)), .error e⟩] ∧
      s'.store = s.store := by
  obtain ⟨xs, kept, t, ys, hset, hdone, rfl⟩ := runs_bind_iff.mp h
  obtain ⟨rfl, hr, rfl⟩ := runs_pure_iff.mp hdone
  cases kept with
  | ok _ => cases hr
  | error e' =>
    cases hr
    obtain ⟨rfl, hstore⟩ := falters_set hset
    exact ⟨rfl, hstore e rfl⟩

/-- A switch has three calls that may fail. Only the last of them comes after a write. -/
theorem store_of_switchHost (h : Runs Falters s (switchHost host) ms (.error e) s') :
    s'.store = s.store ∨ ∃ previous, HalfSwitched s host e (exchangesOf ms) s' previous := by
  obtain ⟨xs, last, t, rest, hlast, hrest, rfl⟩ := runs_bind_iff.mp h
  obtain ⟨rfl, rfl, rfl | ⟨e', rfl⟩⟩ := falters_get hlast
  · cases hrecorded : t.text lastHostKey with
    | none =>
      rw [hrecorded] at hrest
      exact .inl (store_of_recording hrest).2
    | some previous =>
      rw [hrecorded] at hrest
      dsimp only at hrest
      cases hsame : sameHost previous host with
      | true =>
        rw [hsame, if_pos rfl] at hrest
        obtain ⟨-, hr, -⟩ := runs_pure_iff.mp hrest
        cases hr
      | false =>
        rw [hsame, if_neg Bool.false_ne_true] at hrest
        obtain ⟨ys, cleared, u, zs, hclear, hset, rfl⟩ := runs_bind_iff.mp hrest
        obtain ⟨rfl, hfailed, hcleared⟩ := falters_remove hclear
        cases cleared with
        | error e' =>
          obtain ⟨-, -, rfl⟩ := runs_pure_iff.mp hset
          exact .inl (hfailed e' rfl)
        | ok _ =>
          obtain ⟨hexchanges, hstore⟩ := store_of_recording hset
          refine .inr ⟨previous, hrecorded, hsame, ?_, hstore.trans (hcleared rfl)⟩
          rw [exchangesOf_append, exchangesOf_append, hexchanges]
          rfl
  · obtain ⟨-, -, rfl⟩ := runs_pure_iff.mp hrest
    exact .inl rfl

/-- The host before is still on record as the current one, without its deadline; all other deadlines stand. -/
theorem HalfSwitched.left {xs : List (Exchange Question.Answer)} (h : HalfSwitched s host e xs s' previous) :
    s'.text lastHostKey = some previous ∧
      ∀ q, s'.deadline? q = if q = .storage previous then none else s.deadline? q := by
  refine ⟨?_, fun q => deadline?_of_drop h.store⟩
  rw [text_of_drop h.store, if_neg (lastHostKey_ne_deadlineKey _)]
  exact h.recorded

/-- Whatever is on record and whichever calls of the store fail: an extension, a drop or a recording that fails leaves
the store as it was. So does a switch of storage hosts, unless the deadline of the host before is dropped and it is the
recording of the new host that fails. -/
theorem store_of_failure (s : State) :
    (∀ p delay ms e s', Runs Falters s (extend p delay) ms (.error e) s' → s'.store = s.store) ∧
    (∀ p ms e s', Runs Falters s (clear p) ms (.error e) s' → s'.store = s.store) ∧
    (∀ host ms e s', Runs Falters s (setLastHost host) ms (.error e) s' → s'.store = s.store) ∧
    ∀ host ms e s', Runs Falters s (switchHost host) ms (.error e) s' →
      s'.store = s.store ∨ ∃ previous, HalfSwitched s host e (exchangesOf ms) s' previous ∧
        s'.text lastHostKey = some previous ∧
        ∀ q, s'.deadline? q = if q = .storage previous then none else s.deadline? q := by
  refine ⟨fun _ _ _ _ _ h => store_of_extend h, fun _ _ e _ h => ?_, fun _ _ e _ h => ?_, fun host ms e s' h => ?_⟩
  · exact (falters_remove h).2.1 e rfl
  · exact (falters_set h).2 e rfl
  · refine (store_of_switchHost h).imp_right ?_
    rintro ⟨previous, hhalf⟩
    exact ⟨previous, hhalf, hhalf.left⟩

/-- A store that cannot record a host, with a deadline of the one on record. -/
def unwritable : State where
  clock := 1000
  store := {
    entries := [("backoff.storage:old.example.org.earliest_next_request", "9000"),
      ("storage.last_host", "old.example.org")]
    faults := [(.set "storage.last_host", "disk full")] }

private theorem falters_answer (q : Question) (s : State) : Falters s ⟨q, (State.answer q s).1⟩ (State.answer q s).2 :=
  .answers (reads_answer q s)

theorem store_of_failure_unwritable :
    ((setLastHost "new.example.org").run State.answer unwritable).2.store = unwritable.store ∧
    ((switchHost "new.example.org").run State.answer unwritable).2.text lastHostKey = some "old.example.org" ∧
    ((switchHost "new.example.org").run State.answer unwritable).2.deadline? (.storage "old.example.org") = none := by
  obtain ⟨-, -, hrecord, hswitch⟩ := store_of_failure unwritable
  have hrecording := runs_record falters_answer (setLastHost "new.example.org") unwritable
  have hswitching := runs_record falters_answer (switchHost "new.example.org") unwritable
  refine ⟨hrecord _ _ (.storage "disk full") _ hrecording, ?_⟩
  rcases hswitch _ _ (.storage "disk full") _ hswitching with hsame | ⟨previous, hhalf, hlast, hdeadline⟩
  · have hgone : ((switchHost "new.example.org").run State.answer unwritable).2.store.entries.length = 1 := by decide
    rw [hsame] at hgone
    exact absurd hgone (by decide)
  · have hprevious : some "old.example.org" = some previous := hhalf.recorded
    cases hprevious
    exact ⟨hlast, (hdeadline _).trans (if_pos rfl)⟩

/-- One call fails, a switch of storage hosts is broken off, and the host that is still on record has lost its
deadline. -/
theorem deadline_lost_by_failed_switch : ∃ (s s' : State) (e : SyncError), s.store.faults.length = 1 ∧
    (switchHost "new.example.org").run State.answer s = (.error e, s') ∧
    s'.text lastHostKey = some "old.example.org" ∧
    s.deadline? (.storage "old.example.org") = some 9000 ∧ s'.deadline? (.storage "old.example.org") = none :=
  ⟨unwritable, ((switchHost "new.example.org").run State.answer unwritable).2, .storage "disk full", rfl, rfl,
    by decide, by decide, by decide⟩

end Ledger

end AccountSync
