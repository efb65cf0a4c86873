import AccountSync.Proofs.Store.Persistence

/-!
A store that keeps a file, used where no operation on files fails. Main statement: `session_refines`, that it answers
calls as one in memory that starts with the entries which the file told, however often the file is opened again between
them.
-/

set_option autoImplicit false
set_option relaxedAutoImplicit false

namespace AccountSync.Store

open Dialogue
open File (Disk Succeeds)

/-- What is done with a store that keeps a file: a call, or the file is opened again in the place of the store. -/
inductive Use
  | call (c : Call)
  | reopen

def calls : List Use → List Call
  | [] => []
  | .call c :: uses => c :: calls uses
  | .reopen :: uses => calls uses

abbrev Reply := (c : Call) × c.Answer

def Memory.serve (m : Memory) : List Call → List Reply × Memory
  | [] => ([], m)
  | c :: cs => (⟨c, (m.answer c).1⟩ :: ((m.answer c).2.serve cs).1, ((m.answer c).2.serve cs).2)

namespace JsonFile

def serve (s : JsonFile) : List Use → File.Talk (Except SyncError (List Reply × JsonFile))
  | [] => pure (.ok ([], s))
  | .call c :: uses => do
    let (a, s) ← s.answer c
    let served ← s.serve uses
    pure (served.map fun (replies, s) => (⟨c, a⟩ :: replies, s))
  | .reopen :: uses => do
    match ← openAt s.path with
    | .error e => pure (.error e)
    | .ok s => s.serve uses

def session (path : String) (uses : List Use) : File.Talk (Except SyncError (List Reply × JsonFile)) := do
  match ← openAt path with
  | .error e => pure (.error e)
  | .ok s => s.serve uses

end JsonFile

variable {d d' : Disk} {path : String} {es : Entries} {s s' : JsonFile} {ms : List (Moment File.Question.Answer Disk)}
  {c : Call} {a : c.Answer}

theorem runs_openAt {r : Except SyncError JsonFile} (h : Runs Disk.Moves d (JsonFile.openAt path) ms r d')
    (hio : ∀ m ∈ ms, Succeeds m.exchange) (hholds : Holds d path es) : r = .ok ⟨path, es⟩ ∧ d' = d := by
  have hrun := h.eq_run fun m hm t hmove => hmove.eq_answer (hio m hm)
  cases (reopens_of_holds hholds).symm.trans hrun
  exact ⟨rfl, rfl⟩

theorem answer_inMemory (s : JsonFile) (c : Call) :
    (s.inMemory.answer c).2 = { entries := (s.inMemory.answer c).2.entries } := by
  cases c <;> rfl

theorem Effect.refines (h : Effect s d c ms a s' d') (hio : ∀ m ∈ ms, Succeeds m.exchange)
    (hholds : Holds d s.path s.entries) :
    a = (s.inMemory.answer c).1 ∧ s'.path = s.path ∧ s'.inMemory = (s.inMemory.answer c).2 ∧
      Holds d' s'.path s'.entries := by
  have hmemory := answer_inMemory s c
  cases h with
  | idle _ hentries =>
    refine ⟨rfl, rfl, ?_, hholds⟩
    rw [hmemory, hentries]
  | stored _ hcontent =>
    exact ⟨rfl, rfl, hmemory.symm, holds_of_content (sorted_answer (sorted_of_holds hholds) c) hcontent⟩
  | failed _ _ hfault =>
    obtain ⟨m, hm, hfault⟩ := hfault
    exact (hfault (hio m hm)).elim

private theorem serve_refines {uses : List Use} {r : Except SyncError (List Reply × JsonFile)}
    (h : Runs Disk.Moves d (s.serve uses) ms r d') (hio : ∀ m ∈ ms, Succeeds m.exchange)
    (hholds : Holds d s.path s.entries) :
    ∃ s', r = .ok ((s.inMemory.serve (calls uses)).1, s') ∧ s'.path = s.path ∧
      s'.inMemory = (s.inMemory.serve (calls uses)).2 ∧ Holds d' s'.path s'.entries := by
  induction uses generalizing s d ms r with
  | nil =>
    obtain ⟨-, rfl, rfl⟩ := runs_pure_iff.mp h
    exact ⟨s, rfl, rfl, rfl, hholds⟩
  | cons use uses ih =>
    cases use with
    | call c =>
      obtain ⟨xs, ⟨a, s₁⟩, d₁, ys, hcall, hrest, rfl⟩ := runs_bind_iff.mp h
      obtain ⟨ys, served, d₂, zs, hserve, hdone, rfl⟩ := runs_bind_iff.mp hrest
      obtain ⟨rfl, rfl, rfl⟩ := runs_pure_iff.mp hdone
      obtain ⟨rfl, hpath, hmemory, hholds⟩ := (effect_of_runs hcall).refines
        (fun m hm => hio m (List.mem_append_left _ hm)) hholds
      obtain ⟨s', rfl, hpath', hmemory', hholds'⟩ := ih hserve
        (fun m hm => hio m (List.mem_append_right _ (List.mem_append_left _ hm))) hholds
      rw [hmemory] at hmemory' ⊢
      exact ⟨s', rfl, hpath'.trans hpath, hmemory', hholds'⟩
    | reopen =>
      obtain ⟨xs, opened, d₁, ys, hopen, hrest, rfl⟩ := runs_bind_iff.mp h
      obtain ⟨rfl, rfl⟩ := runs_openAt hopen (fun m hm => hio m (List.mem_append_left _ hm)) hholds
      exact ih hrest (fun m hm => hio m (List.mem_append_right _ hm)) hholds

theorem session_refines {uses : List Use} {r : Except SyncError (List Reply × JsonFile)}
    (h : Runs Disk.Moves d (JsonFile.session path uses) ms r d') (hio : ∀ m ∈ ms, Succeeds m.exchange)
    (hholds : Holds d path es) :
    ∃ s', r = .ok ((Memory.serve { entries := es } (calls uses)).1, s') := by
  obtain ⟨xs, opened, d₁, ys, hopen, hrest, rfl⟩ := runs_bind_iff.mp h
  obtain ⟨rfl, rfl⟩ := runs_openAt hopen (fun m hm => hio m (List.mem_append_left _ hm)) hholds
  obtain ⟨s', hr, -⟩ := serve_refines hrest (fun m hm => hio m (List.mem_append_right _ hm)) hholds
  exact ⟨s', hr⟩

end AccountSync.Store
