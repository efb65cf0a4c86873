import AccountSync.Proofs.Ledger.Chronicle
import AccountSync.Proofs.Store.Refinement

/-!
Ledgers over a store that keeps a file. A ledger may be dropped at any point and another one put over the file, which
only loses the skews. Main statement: `restarts_unseen`, that a store over a file answers as one in memory and a ledger
over it as one that is never dropped, where no operation on files fails.
-/

set_option autoImplicit false
set_option relaxedAutoImplicit false

namespace AccountSync.Ledger

open Dialogue
open File (Disk Succeeds)
open Store (Holds JsonFile)

structure Filed where
  clock : Instant
  store : JsonFile
  skews : List (String × Int) := []

abbrev Reply := (o : Operation) × o.Answer

/-- What is done with a ledger over a file: a step, or the ledger is dropped and another one is put over the file, which
is opened again. -/
inductive Deed
  | step (step : Step)
  | restart

def steps : List Deed → List Step
  | [] => []
  | .step step :: deeds => step :: steps deeds
  | .restart :: deeds => steps deeds

namespace Filed

def answer (f : Filed) : (q : Question) → File.Talk (q.Answer × Filed)
  | .now => pure (f.clock, f)
  | .store c => do
    let (a, store) ← f.store.answer c
    pure (a, { f with store })
  | .skew host => pure ((f.skews.lookup host).getD 0, f)
  | .recordSkew host seconds => pure ((), { f with skews := (host, seconds) :: f.skews })

/-- A dialogue of the ledger, as a dialogue with the file system. -/
def converse {α : Type} : Talk α → Filed → File.Talk (α × Filed)
  | .done a, f => pure (a, f)
  | .ask q next, f => do
    let (a, f) ← f.answer q
    converse (next a) f

def serve (f : Filed) : List Deed → File.Talk (Except SyncError (List Reply × Filed))
  | [] => pure (.ok ([], f))
  | .step (.operate o) :: deeds => do
    let (a, f) ← converse o.talk f
    let served ← f.serve deeds
    pure (served.map fun (replies, f) => (⟨o, a⟩ :: replies, f))
  | .step (.setClock now) :: deeds => serve { f with clock := now } deeds
  | .restart :: deeds => do
    match ← JsonFile.openAt f.store.path with
    | .error e => pure (.error e)
    | .ok store => serve { clock := f.clock, store } deeds

def session (path : String) (now : Instant) (deeds : List Deed) :
    File.Talk (Except SyncError (List Reply × Filed)) := do
  match ← JsonFile.openAt path with
  | .error e => pure (.error e)
  | .ok store => serve { clock := now, store } deeds

end Filed

def State.replies (s : State) : List Step → List Reply
  | [] => []
  | .operate o :: steps => ⟨o, s.reply o⟩ :: (s.step (.operate o)).replies steps
  | .setClock now :: steps => (s.step (.setClock now)).replies steps

/-- Whether an operation rests on the clock and on what is stored. The others rest on the skews, which no file keeps. -/
def Operation.recorded : Operation → Bool
  | .observeClock .. => false
  | .skew _ => false
  | .adjustedNow _ => false
  | _ => true

def Question.Recorded (q : Question) : Prop := ∀ host, q ≠ .skew host

def Question.Storeless (q : Question) : Prop := ∀ c, q ≠ .store c

/-- A ledger over a file and one in memory that have the same clock and the same entries. -/
structure Mirrors (f : Filed) (d : Disk) (s : State) : Prop where
  clock : f.clock = s.clock
  store : f.store.inMemory = s.store
  file : Holds d f.store.path f.store.entries

variable {f f' : Filed} {d d' : Disk} {s : State} {ms : List (Moment File.Question.Answer Disk)} {q : Question}
  {α : Type} {t : Talk α}

private theorem mirrors_answer {a : q.Answer} (h : Runs Disk.Moves d (f.answer q) ms (a, f') d')
    (hio : ∀ m ∈ ms, Succeeds m.exchange) (hm : Mirrors f d s) (hq : q.Recorded) :
    a = (State.answer q s).1 ∧ Mirrors f' d' (State.answer q s).2 := by
  cases q with
  | now =>
    obtain ⟨-, hr, rfl⟩ := runs_pure_iff.mp h
    cases hr
    exact ⟨hm.clock, hm⟩
  | store c =>
    obtain ⟨xs, ⟨a', store⟩, d₁, ys, hcall, hdone, rfl⟩ := runs_bind_iff.mp h
    obtain ⟨rfl, hr, rfl⟩ := runs_pure_iff.mp hdone
    cases hr
    rw [List.append_nil] at hio
    obtain ⟨rfl, hpath, hmemory, hholds⟩ := (Store.effect_of_runs hcall).refines hio hm.file
    rw [hm.store] at hmemory ⊢
    exact ⟨rfl, hm.clock, hmemory, hholds⟩
  | skew host => exact (hq host rfl).elim
  | recordSkew host seconds =>
    obtain ⟨-, hr, rfl⟩ := runs_pure_iff.mp h
    cases hr
    exact ⟨rfl, hm.clock, hm.store, hm.file⟩

private theorem mirrors_converse {a : α} (h : Runs Disk.Moves d (Filed.converse t f) ms (a, f') d')
    (hio : ∀ m ∈ ms, Succeeds m.exchange) (hm : Mirrors f d s) (ht : t.Asks Question.Recorded) :
    a = (t.run State.answer s).1 ∧ Mirrors f' d' (t.run State.answer s).2 := by
  induction t generalizing f d s ms with
  | done a' =>
    obtain ⟨-, hr, rfl⟩ := runs_pure_iff.mp h
    cases hr
    exact ⟨rfl, hm⟩
  | ask q next ih =>
    obtain ⟨xs, ⟨b, f₁⟩, d₁, ys, hfirst, hrest, rfl⟩ := runs_bind_iff.mp h
    obtain ⟨rfl, hm⟩ := mirrors_answer hfirst (fun m hm => hio m (List.mem_append_left _ hm)) hm ht.1
    exact ih _ hrest (fun m hm => hio m (List.mem_append_right _ hm)) hm (ht.2 _)

/-- A dialogue that does not turn to the store leaves the clock and the entries as they are, on both sides. -/
theorem mirrors_converse_of_storeless {a : α} (h : Runs Disk.Moves d (Filed.converse t f) ms (a, f') d')
    (hm : Mirrors f d s) (ht : t.Asks Question.Storeless) : Mirrors f' d' s := by
  induction t generalizing f d ms with
  | done a' =>
    obtain ⟨-, hr, rfl⟩ := runs_pure_iff.mp h
    cases hr
    exact hm
  | ask q next ih =>
    obtain ⟨xs, ⟨b, f₁⟩, d₁, ys, hfirst, hrest, rfl⟩ := runs_bind_iff.mp h
    refine ih b hrest ?_ (ht.2 b)
    cases q with
    | now =>
      obtain ⟨-, hr, rfl⟩ := runs_pure_iff.mp hfirst
      cases hr
      exact hm
    | store c => exact (ht.1 c rfl).elim
    | skew host =>
      obtain ⟨-, hr, rfl⟩ := runs_pure_iff.mp hfirst
      cases hr
      exact hm
    | recordSkew host seconds =>
      obtain ⟨-, hr, rfl⟩ := runs_pure_iff.mp hfirst
      cases hr
      exact ⟨hm.clock, hm.store, hm.file⟩

private theorem mirrors_run_of_storeless (hm : Mirrors f d s) (ht : t.Asks Question.Storeless) :
    Mirrors f d (t.run State.answer s).2 := by
  induction t generalizing s with
  | done a => exact hm
  | ask q next ih =>
    refine ih _ ?_ (ht.2 _)
    cases q with
    | store c => exact (ht.1 c rfl).elim
    | _ => exact ⟨hm.clock, hm.store, hm.file⟩

private theorem asks_of_recorded {o : Operation} (h : o.recorded = true) : o.talk.Asks Question.Recorded := by
  have hnow : Question.now.Recorded := nofun
  have hget : ∀ key, (Question.store (.get key)).Recorded := nofun
  cases o with
  | extend p delay => exact asks_extend_of hnow hget nofun delay
  | clear p => exact asks_question.mpr nofun
  | switchHost host => exact asks_switchHost_of hget nofun nofun host
  | setLastHost host => exact asks_question.mpr nofun
  | recordSkew host seconds => exact asks_question.mpr nofun
  | observeClock host server => cases h
  | now => exact asks_question.mpr hnow
  | deadline p => exact asks_deadline_of hget
  | remaining p => exact asks_remaining_of hnow hget
  | mayProceed p forced => exact asks_mayProceed_of hnow hget forced
  | lastHost => exact asks_question.mpr (hget _)
  | skew host => cases h
  | adjustedNow host => cases h

private theorem asks_of_not_recorded {o : Operation} (h : o.recorded = false) : o.talk.Asks Question.Storeless := by
  have hnow : Question.now.Storeless := nofun
  have hskew : ∀ host, (Question.skew host).Storeless := nofun
  cases o with
  | observeClock host server => exact asks_observeClock_of hnow hskew nofun host server
  | skew host => exact asks_question.mpr (hskew _)
  | adjustedNow host => exact asks_adjustedNow_of hnow hskew host
  | _ => cases h

private theorem mirrors_operate {o : Operation} {a : o.Answer}
    (h : Runs Disk.Moves d (Filed.converse o.talk f) ms (a, f') d')
    (hio : ∀ m ∈ ms, Succeeds m.exchange) (hm : Mirrors f d s) :
    (o.recorded = true → a = s.reply o) ∧ Mirrors f' d' (s.step (.operate o)) := by
  cases ho : o.recorded with
  | true =>
    obtain ⟨ha, hm⟩ := mirrors_converse h hio hm (asks_of_recorded ho)
    exact ⟨fun _ => ha, hm⟩
  | false =>
    have hasks := asks_of_not_recorded ho
    exact ⟨nofun, mirrors_run_of_storeless (mirrors_converse_of_storeless h hm hasks) hasks⟩

def recorded (replies : List Reply) : List Reply := replies.filter (·.1.recorded)

private theorem recorded_cons {o : Operation} {a b : o.Answer} {xs ys : List Reply} (h : o.recorded = true → a = b)
    (hrest : recorded xs = recorded ys) : recorded (⟨o, a⟩ :: xs) = recorded (⟨o, b⟩ :: ys) := by
  unfold recorded at hrest ⊢
  rw [List.filter_cons, List.filter_cons]
  cases ho : o.recorded with
  | true => simp only [if_true, h ho, hrest]
  | false => simpa using hrest

private theorem serve_mirrors {deeds : List Deed} {r : Except SyncError (List Reply × Filed)}
    (h : Runs Disk.Moves d (f.serve deeds) ms r d') (hio : ∀ m ∈ ms, Succeeds m.exchange) (hm : Mirrors f d s) :
    ∃ replies f', r = .ok (replies, f') ∧ recorded replies = recorded (s.replies (steps deeds)) := by
  induction deeds generalizing f d s ms r with
  | nil =>
    obtain ⟨-, rfl, rfl⟩ := runs_pure_iff.mp h
    exact ⟨[], f, rfl, rfl⟩
  | cons deed deeds ih =>
    cases deed with
    | step step =>
      cases step with
      | operate o =>
        obtain ⟨xs, ⟨a, f₁⟩, d₁, ys, htalk, hrest, rfl⟩ := runs_bind_iff.mp h
        obtain ⟨ys, served, d₂, zs, hserve, hdone, rfl⟩ := runs_bind_iff.mp hrest
        obtain ⟨rfl, rfl, rfl⟩ := runs_pure_iff.mp hdone
        obtain ⟨ha, hm⟩ := mirrors_operate htalk (fun m hm => hio m (List.mem_append_left _ hm)) hm
        obtain ⟨replies, f', rfl, hreplies⟩ := ih hserve
          (fun m hm => hio m (List.mem_append_right _ (List.mem_append_left _ hm))) hm
        exact ⟨_, f', rfl, recorded_cons ha hreplies⟩
      | setClock now => exact ih h hio ⟨rfl, hm.store, hm.file⟩
    | restart =>
      obtain ⟨xs, opened, d₁, ys, hopen, hrest, rfl⟩ := runs_bind_iff.mp h
      obtain ⟨rfl, rfl⟩ := Store.runs_openAt hopen (fun m hm => hio m (List.mem_append_left _ hm)) hm.file
      exact ih hrest (fun m hm => hio m (List.mem_append_right _ hm)) ⟨hm.clock, hm.store, hm.file⟩

private theorem session_mirrors {path : String} {es : Store.Entries} {now : Instant} {deeds : List Deed}
    {r : Except SyncError (List Reply × Filed)} (h : Runs Disk.Moves d (Filed.session path now deeds) ms r d')
    (hio : ∀ m ∈ ms, Succeeds m.exchange) (hholds : Holds d path es) :
    ∃ replies f, r = .ok (replies, f) ∧
      recorded replies = recorded (State.replies ⟨now, { entries := es }, []⟩ (steps deeds)) := by
  obtain ⟨xs, opened, d₁, ys, hopen, hrest, rfl⟩ := runs_bind_iff.mp h
  obtain ⟨rfl, rfl⟩ := Store.runs_openAt hopen (fun m hm => hio m (List.mem_append_left _ hm)) hholds
  exact serve_mirrors hrest (fun m hm => hio m (List.mem_append_right _ hm)) ⟨rfl, rfl, hholds⟩

/-- Where no operation on files fails, nobody sees when the file is opened again: the store answers every call as one in
memory with the entries that the file told at first, and the ledger answers every operation that rests on what is stored
as one in memory that is never dropped. -/
theorem restarts_unseen {path : String} {es : Store.Entries} (hholds : Holds d path es) :
    (∀ uses ms r d', Runs Disk.Moves d (JsonFile.session path uses) ms r d' → (∀ m ∈ ms, Succeeds m.exchange) →
      ∃ s, r = .ok ((Store.Memory.serve { entries := es } (Store.calls uses)).1, s)) ∧
    ∀ now deeds ms r d', Runs Disk.Moves d (Filed.session path now deeds) ms r d' → (∀ m ∈ ms, Succeeds m.exchange) →
      ∃ replies f, r = .ok (replies, f) ∧
        recorded replies = recorded (State.replies { clock := now, store := { entries := es } } (steps deeds)) :=
  ⟨fun _ _ _ _ h hio => Store.session_refines h hio hholds, fun _ _ _ _ _ h hio => session_mirrors h hio hholds⟩

def stored : Disk :=
  ⟨[(["s.json"], .file (Text.Utf8.bytes "\x7b\"storage.last_host\":\"a.example\"\x7d"))]⟩

private theorem holds_stored : Holds stored "s.json" [("storage.last_host", "a.example")] :=
  .told rfl (Text.Utf8.decode?_bytes _) rfl

/-- A key and a text that need escapes, and a key that is not there. -/
def uses : List Store.Use :=
  [.call (.set "\"\n" "\x01é"), .reopen, .call (.get "\"\n"), .call (.remove "none"), .reopen,
    .call (.get "storage.last_host")]

/-- The ledger is dropped between an extension and the switch of hosts that undoes it. -/
def deeds : List Deed :=
  [.step (.operate (.extend (.storage "A.example") 500)), .restart,
    .step (.operate (.remaining (.storage "a.example"))), .step (.setClock 200), .restart,
    .step (.operate (.switchHost "b.example")), .restart, .step (.operate (.deadline (.storage "a.example")))]

theorem restarts_unseen_stored : Holds stored "s.json" [("storage.last_host", "a.example")] ∧
    (∃ s, ((JsonFile.session "s.json" uses).run Disk.answer stored).1 =
      .ok ((Store.Memory.serve { entries := [("storage.last_host", "a.example")] } (Store.calls uses)).1, s)) ∧
    ∃ replies f, ((Filed.session "s.json" 1000 deeds).run Disk.answer stored).1 = .ok (replies, f) ∧
      recorded replies = recorded (State.replies
        { clock := 1000, store := { entries := [("storage.last_host", "a.example")] } } (steps deeds)) := by
  obtain ⟨hcalls, hoperations⟩ := restarts_unseen holds_stored
  have huses : ∀ m ∈ (JsonFile.session "s.json" uses).record Disk.answer stored, Succeeds m.exchange := by
    decide +kernel
  have hdeeds : ∀ m ∈ (Filed.session "s.json" 1000 deeds).record Disk.answer stored, Succeeds m.exchange := by
    decide +kernel
  exact ⟨holds_stored, hcalls _ _ _ _ (Store.runs_run _ _) huses, hoperations _ _ _ _ _ (Store.runs_run _ _) hdeeds⟩

end AccountSync.Ledger
