import AccountSync.Proofs.Dialogue.Order
import AccountSync.Proofs.Ledger.Restart
import AccountSync.Proofs.Store.Failure

/-!
Ledgers over a store that keeps a file, where writing the file may fail at any time. The entries in memory change all
the same, so a ledger goes on as one in memory on which nothing fails: exactly, if no switch of storage hosts is broken
off (`inMemory_operate`), and as far as deadlines are concerned in any case (`text_operate`). Main statement:
`failure_unseen`, that the file is spared by a call that failed, while later answers are those after one that succeeded.
-/

set_option autoImplicit false
set_option relaxedAutoImplicit false

namespace AccountSync.Ledger

open Dialogue
open File (Disk parts temporary)
open Store (JsonFile)

def Filed.inMemory (f : Filed) : State := ⟨f.clock, f.store.inMemory, f.skews⟩

def Question.Loud (q : Question) : Prop := ¬ q.Quiet

variable {f f' : Filed} {d d' : Disk} {ms : List (Moment File.Question.Answer Disk)} {q : Question} {α β : Type}
  {t : Talk α} {p : Purpose} {key : String}

private theorem working_inMemory (f : Filed) : f.inMemory.Working := rfl

/-- A question changes what is in memory as if nothing could fail. If it writes nothing it is answered so as well. -/
theorem inMemory_answer {a : q.Answer} (h : Runs Disk.Moves d (f.answer q) ms (a, f') d') :
    f'.inMemory = (State.answer q f.inMemory).2 ∧ (q.Quiet → a = (State.answer q f.inMemory).1) := by
  cases q with
  | now =>
    obtain ⟨-, hr, -⟩ := runs_pure_iff.mp h
    cases hr
    exact ⟨rfl, fun _ => rfl⟩
  | store c =>
    obtain ⟨xs, ⟨b, store⟩, d₁, ys, hcall, hdone, rfl⟩ := runs_bind_iff.mp h
    obtain ⟨-, hr, -⟩ := runs_pure_iff.mp hdone
    cases hr
    have hstore : store.inMemory = (f.store.inMemory.answer c).2 := by
      rw [(Store.effect_of_runs hcall).eq_memory, Store.answer_inMemory f.store c]
    refine ⟨congrArg (State.mk f.clock · f.skews) hstore, fun hq => ?_⟩
    cases c with
    | get key =>
      obtain ⟨-, hr, -⟩ := runs_pure_iff.mp hcall
      cases hr
      rfl
    | set key value => exact (hq key (.inl ⟨value, rfl⟩)).elim
    | remove key => exact (hq key (.inr rfl)).elim
  | skew host =>
    obtain ⟨-, hr, -⟩ := runs_pure_iff.mp h
    cases hr
    exact ⟨rfl, fun _ => rfl⟩
  | recordSkew host seconds =>
    obtain ⟨-, hr, -⟩ := runs_pure_iff.mp h
    cases hr
    exact ⟨rfl, fun _ => rfl⟩

private theorem run_of_quiet {a : α} (h : Runs Disk.Moves d (Filed.converse t f) ms (a, f') d')
    (ht : t.Asks Question.Quiet) : t.run State.answer f.inMemory = (a, f'.inMemory) := by
  induction t generalizing f d ms with
  | done b =>
    obtain ⟨-, hr, -⟩ := runs_pure_iff.mp h
    cases hr
    rfl
  | ask q next ih =>
    obtain ⟨xs, ⟨b, f₁⟩, d₁, ys, hfirst, hrest, rfl⟩ := runs_bind_iff.mp h
    obtain ⟨hmemory, hanswer⟩ := inMemory_answer hfirst
    have hnext := ih b hrest (ht.2 b)
    rw [hmemory, hanswer ht.1] at hnext
    exact hnext

section View

variable {W : Question → Prop}

theorem view_run (view : State → β) (hkeep : ∀ q s, ¬ W q → view (State.answer q s).2 = view s)
    (ht : t.Asks fun q => ¬ W q) (s : State) : view (t.run State.answer s).2 = view s := by
  induction t generalizing s with
  | done a => rfl
  | ask q next ih => exact (ih _ (ht.2 _) _).trans (hkeep q s ht.1)

private theorem view_converse (view : State → β) {a : α} (hkeep : ∀ q s, ¬ W q → view (State.answer q s).2 = view s)
    (h : Runs Disk.Moves d (Filed.converse t f) ms (a, f') d') (ht : t.Asks fun q => ¬ W q) :
    view f'.inMemory = view f.inMemory := by
  induction t generalizing f d ms with
  | done b =>
    obtain ⟨-, hr, -⟩ := runs_pure_iff.mp h
    cases hr
    rfl
  | ask q next ih =>
    obtain ⟨xs, ⟨b, f₁⟩, d₁, ys, hfirst, hrest, rfl⟩ := runs_bind_iff.mp h
    rw [ih b hrest (ht.2 b), (inMemory_answer hfirst).1, hkeep q _ ht.1]

/-- Where nothing that matters to a view of the ledger follows a write, it is the same at the end whether the write
failed or not. -/
theorem view_of_closes (view : State → β) {a : α} (hkeep : ∀ q s, ¬ W q → view (State.answer q s).2 = view s)
    (h : Runs Disk.Moves d (Filed.converse t f) ms (a, f') d') (ht : t.Closes Question.Loud W) :
    view f'.inMemory = view (t.run State.answer f.inMemory).2 := by
  induction t generalizing f d ms with
  | done b =>
    obtain ⟨-, hr, -⟩ := runs_pure_iff.mp h
    cases hr
    rfl
  | ask q next ih =>
    obtain ⟨xs, ⟨b, f₁⟩, d₁, ys, hfirst, hrest, rfl⟩ := runs_bind_iff.mp h
    obtain ⟨hmemory, hanswer⟩ := inMemory_answer hfirst
    by_cases hq : q.Quiet
    · have hnext := ih b hrest (ht.2 b)
      rw [hmemory, hanswer hq] at hnext
      exact hnext
    · rw [view_converse view hkeep hrest (ht.1 hq b), hmemory]
      exact (view_run view hkeep (ht.1 hq _) _).symm

end View

private theorem closes_extend {W : Question → Prop} (p : Purpose) (delay : Nat) :
    (extend p delay).Closes Question.Loud W := by
  refine closes_bind_left (asks_question.mpr (not_not.mpr quiet_now)) fun now => ?_
  refine closes_bind_left ((asks_deadline p).mono fun _ => not_not.mpr) fun stored => ?_
  cases stored with
  | error e => trivial
  | ok stored =>
    dsimp only
    split
    · trivial
    · refine closes_bind_right closes_question (fun kept => ?_) fun kept => ?_
      · cases kept <;> trivial
      · cases kept <;> trivial

/-- A switch of storage hosts that is broken off has done to deadlines all that it would have. -/
theorem closes_switchHost (p : Purpose) (host : String) :
    (switchHost host).Closes Question.Loud (Question.Writes · (deadlineKey p)) := by
  have hset : ((setLastHost host) >>= fun set => pure (set.map fun _ => true) :
      Talk (Except SyncError Bool)).Asks fun q => ¬ q.Writes (deadlineKey p) :=
    asks_bind (not_writes_setLastHost p host) fun _ => trivial
  refine closes_bind_left (asks_question.mpr (not_not.mpr (quiet_get _))) fun last => ?_
  rcases last with e | _ | previous
  · trivial
  · exact closes_of_unasked hset
  · dsimp only
    split
    · trivial
    · refine closes_bind_right closes_question (fun cleared => ?_) fun cleared => ?_
      · cases cleared with
        | error e => trivial
        | ok _ => exact hset
      · cases cleared with
        | error e => trivial
        | ok _ => exact closes_of_unasked hset

/-- An operation other than a switch of storage hosts writes nothing, or writes last. -/
theorem quiet_or_closes {W : Question → Prop} {o : Operation} (ho : ∀ host, o ≠ .switchHost host) :
    o.talk.Asks Question.Quiet ∨ o.talk.Closes Question.Loud W := by
  cases o with
  | extend p delay => exact .inr (closes_extend p delay)
  | clear p => exact .inr closes_question
  | switchHost host => exact (ho host rfl).elim
  | setLastHost host => exact .inr closes_question
  | recordSkew host seconds => exact .inl (asks_question.mpr (quiet_of_not_store nofun))
  | observeClock host server => exact .inl (asks_observeClock host server)
  | now => exact .inl asks_now
  | deadline p => exact .inl (asks_deadline p)
  | remaining p => exact .inl (asks_remaining p)
  | mayProceed p forced => exact .inl (asks_mayProceed p forced)
  | lastHost => exact .inl (asks_question.mpr (quiet_get _))
  | skew host => exact .inl (asks_skew host)
  | adjustedNow host => exact .inl (asks_adjustedNow host)

variable {o : Operation} {a : o.Answer}

theorem inMemory_operate (h : Runs Disk.Moves d (Filed.converse o.talk f) ms (a, f') d')
    (ho : ∀ host, o ≠ .switchHost host) : f'.inMemory = f.inMemory.step (.operate o) := by
  have hcloses : o.talk.Asks Question.Quiet ∨ o.talk.Closes Question.Loud fun _ => True := quiet_or_closes ho
  rcases hcloses with hquiet | hcloses
  · exact (congrArg Prod.snd (run_of_quiet h hquiet)).symm
  · have hkeep : ∀ q s, ¬ True → (State.answer q s).2 = s := fun _ _ hq => (hq trivial).elim
    exact view_of_closes id hkeep h hcloses

private theorem text_answer_of_not_writes (q : Question) (s : State) (hq : ¬ q.Writes key) :
    (State.answer q s).2.text key = s.text key := by
  have hasks : (question q : Talk q.Answer).Asks fun q => ¬ q.Writes key := asks_question.mpr hq
  exact text_of_asks (runs_answer (question q) s) hasks

/-- A switch that was broken off has left the deadlines so, too. -/
theorem text_operate (h : Runs Disk.Moves d (Filed.converse o.talk f) ms (a, f') d') (p : Purpose) :
    f'.inMemory.text (deadlineKey p) = (f.inMemory.step (.operate o)).text (deadlineKey p) := by
  by_cases ho : ∃ host, o = .switchHost host
  · obtain ⟨host, rfl⟩ := ho
    exact view_of_closes (State.text · (deadlineKey p)) text_answer_of_not_writes h (closes_switchHost p host)
  · rw [inMemory_operate h (not_exists.mp ho)]

private theorem reply_mayProceed_of_text {s u : State} (hs : s.Working) (hu : u.Working) (hclock : s.clock = u.clock)
    (htext : s.text (deadlineKey p) = u.text (deadlineKey p)) (forced : Bool) :
    s.reply (.mayProceed p forced) = u.reply (.mayProceed p forced) := by
  cases forced with
  | true => rfl
  | false =>
    change ((mayProceed p false).run State.answer s).1 = ((mayProceed p false).run State.answer u).1
    rw [run_mayProceed hs, run_mayProceed hu, hclock, deadline?_of_text htext]

/-- After an operation, whether it failed or not, requests may be made when they may be after one that did not. -/
theorem mayProceed_after (h : Runs Disk.Moves d (Filed.converse o.talk f) ms (a, f') d') {now : Instant} {forced : Bool}
    {ns : List (Moment File.Question.Answer Disk)} {b : Except SyncError Bool} {f'' : Filed} {d'' : Disk}
    (hlater : Runs Disk.Moves d' (Filed.converse (mayProceed p forced) { f' with clock := now }) ns (b, f'') d'') :
    b = ((f.inMemory.step (.operate o)).step (.setClock now)).reply (.mayProceed p forced) := by
  have hanswer := congrArg Prod.fst (run_of_quiet hlater (asks_mayProceed p forced))
  refine hanswer.symm.trans ?_
  have hworking : (f.inMemory.step (.operate o)).Working := working_step (working_inMemory f) _
  exact reply_mayProceed_of_text (working_inMemory _) (working_step hworking _) rfl (text_operate h p) forced

/-- A call that fails spares the file, if this is not the one beside it, but changes what the store answers from as one
that succeeds does; only where a text was set that was there already is that the same. So whether an operation on a
ledger fails or not, requests may be made later when they may be after one on a ledger in memory, where nothing fails.
-/
theorem failure_unseen (f : Filed) (d : Disk) :
    (∀ c ms a s' d', Runs Disk.Moves d (f.store.answer c) ms (a, s') d' → c.isOk a = false →
      s' = ⟨f.store.path, (f.store.inMemory.answer c).2.entries⟩ ∧
      ((∀ k, s'.entries.get? k = f.store.entries.get? k) ↔
        ∃ key value, c = .set key value ∧ f.store.entries.get? key = some value) ∧
      (parts f.store.path ≠ parts (temporary f.store.path) →
        d'.content? (parts f.store.path) = d.content? (parts f.store.path))) ∧
    ∀ (o : Operation) ms a f' d', Runs Disk.Moves d (Filed.converse o.talk f) ms (a, f') d' →
      ∀ now p forced ns b f'' d'',
        Runs Disk.Moves d' (Filed.converse (mayProceed p forced) { f' with clock := now }) ns (b, f'') d'' →
        b = ((f.inMemory.step (.operate o)).step (.setClock now)).reply (.mayProceed p forced) := by
  refine ⟨?_, fun _ _ _ _ _ h _ _ _ _ _ _ _ hlater => mayProceed_after h hlater⟩
  intro c ms a s' d' h ha
  exact ⟨(Store.effect_of_runs h).eq_memory, Store.get?_of_failed h ha, Store.content?_of_failed h ha⟩

/-- A ledger over the file that cannot be written. -/
def hindered : Filed := ⟨1000, ⟨"s.json", [("a", "1")]⟩, []⟩

/-- The same with a deadline that is not in the file. -/
def extended : Filed := ⟨1000, ⟨"s.json", [("a", "1"), (deadlineKey .scheduler, "1500")]⟩, []⟩

private theorem extend_hindered : (Filed.converse (extend .scheduler 500) hindered).run Disk.answer Store.blocked =
    ((.error (.storage (File.fault "write " "s.tmp")), extended), Store.blocked) := rfl

theorem failure_unseen_hindered :
    (∃ e s', (JsonFile.answer hindered.store (.set "a" "2")).run Disk.answer Store.blocked =
      ((.error e, s'), Store.blocked) ∧ ¬ ∀ k, s'.entries.get? k = hindered.store.entries.get? k) ∧
    ((Filed.converse (mayProceed .scheduler false) { extended with clock := 1499 }).run Disk.answer Store.blocked).1.1 =
      ((hindered.inMemory.step (.operate (.extend .scheduler 500))).step (.setClock 1499)).reply
        (.mayProceed .scheduler false) := by
  obtain ⟨hstore, hledger⟩ := failure_unseen hindered Store.blocked
  have hset : (JsonFile.answer hindered.store (.set "a" "2")).run Disk.answer Store.blocked =
      ((.error (.storage (File.fault "write " "s.tmp")), ⟨"s.json", [("a", "2")]⟩), Store.blocked) := rfl
  have hcall := Store.runs_run (JsonFile.answer hindered.store (.set "a" "2")) Store.blocked
  rw [hset] at hcall
  have hoperation := Store.runs_run (Filed.converse (extend .scheduler 500) hindered) Store.blocked
  rw [extend_hindered] at hoperation
  refine ⟨⟨_, _, hset, ?_⟩, ?_⟩
  · intro hsame
    obtain ⟨key, value, hc, hkey⟩ := (hstore _ _ _ _ _ hcall rfl).2.1.mp hsame
    cases hc
    exact absurd hkey (by decide)
  · exact hledger (.extend .scheduler 500) _ _ _ _ hoperation 1499 .scheduler false _ _ _ _ (Store.runs_run _ _)

/-- A deadline that could not be written is kept in memory: a request that was allowed before is refused now, although
the operation failed. -/
theorem refused_after_failure : ∃ f f' : Filed, ∃ e, f.store.Reopens "s.json" Store.blocked ∧
    (Filed.converse (mayProceed .scheduler false) f).run Disk.answer Store.blocked = ((.ok true, f), Store.blocked) ∧
    (Filed.converse (extend .scheduler 500) f).run Disk.answer Store.blocked = ((.error e, f'), Store.blocked) ∧
    (∃ key, f'.store.entries.get? key ≠ f.store.entries.get? key) ∧
    (Filed.converse (mayProceed .scheduler false) f').run Disk.answer Store.blocked =
      ((.ok false, f'), Store.blocked) :=
  ⟨hindered, extended, _, rfl, rfl, extend_hindered, ⟨deadlineKey .scheduler, by decide⟩, rfl⟩

end AccountSync.Ledger
