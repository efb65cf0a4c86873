import AccountSync.Proofs.Store.Persistence

/-!
Calls on a store that keeps a file, where writing the file fails. The file is then as it was (`content?_of_failed`);
what the store answers from is not: it has changed as if the call had succeeded (`get?_of_failed`).
-/

set_option autoImplicit false
set_option relaxedAutoImplicit false

namespace AccountSync

namespace File.Disk

variable {d d' : Disk} {path : List String} {source target text : String} {done : Bool}

private theorem content?_place_of_ne {other : List String} {node : Node} (h : path ≠ []) (hne : other ≠ path) :
    (d.place path node).content? other = d.content? other := by
  rw [content?, node?_place h, if_neg hne, content?]

private theorem content?_place_folder {here : List String} (hhere : here ≠ []) (h : d.node? here = none) :
    (d.place here .folder).content? path = d.content? path := by
  by_cases hpath : path = here
  · subst hpath
    rw [content?, node?_place hhere, if_pos rfl, content?, h]
  · exact content?_place_of_ne hhere hpath

private theorem content?_createFolders (d : Disk) (above rest : List String) :
    (d.createFolders above rest).2.content? path = d.content? path := by
  induction rest generalizing d above with
  | nil => rfl
  | cons p rest ih =>
    unfold createFolders
    dsimp only
    split
    · exact ih d _
    · rfl
    · rename_i hmissing
      rw [ih, content?_place_folder (by simp) hmissing]

private theorem Moves.content?_createFolder (h : d.Moves ⟨.createFolder target, done⟩ d') :
    d'.content? path = d.content? path := by
  cases h with
  | answer => exact content?_createFolders d [] _
  | createFolder _ made _ => exact content?_createFolders d [] made

private theorem Moves.content?_write_of_ne (h : d.Moves ⟨.write target text, done⟩ d') (hne : path ≠ parts target) :
    d'.content? path = d.content? path := by
  cases h with
  | answer =>
    rw [Disk.answer]
    split
    · rename_i hfree
      exact content?_place_of_ne (ne_nil_of_isFree hfree) hne
    · rfl
  | write _ _ => rfl
  | writePartly _ _ left hfree => exact content?_place_of_ne (ne_nil_of_isFree hfree) hne

private theorem Moves.eq_of_rename (h : d.Moves ⟨.rename source target, done⟩ d') (hdone : done = false) : d' = d := by
  cases h with
  | answer =>
    rw [Disk.answer] at hdone ⊢
    split
    · rename_i content hcontent
      rw [hcontent] at hdone
      dsimp only at hdone
      split
      · rename_i hfree
        rw [if_pos hfree] at hdone
        cases hdone
      · rfl
    · rfl
  | rename _ _ => rfl

end File.Disk

namespace Store

open Dialogue
open File (Disk parts temporary)

variable {d d' : Disk} {path : String} {es : Entries} {s s' : JsonFile} {ms : List (Moment File.Question.Answer Disk)}

private theorem content?_of_persist {r : Except SyncError Unit}
    (h : Runs Disk.Moves d (JsonFile.persist path es) ms r d')
    (hr : r.isOk = false) (hbeside : parts path ≠ parts (temporary path)) :
    d'.content? (parts path) = d.content? (parts path) := by
  cases persisting_of_runs h with
  | stored _ _ _ => cases hr
  | unmoved hmade hwritten hunmoved =>
    rw [hunmoved.eq_of_rename rfl, hwritten.content?_write_of_ne hbeside, hmade.content?_createFolder]
  | unwritten hmade hunwritten => rw [hunwritten.content?_write_of_ne hbeside, hmade.content?_createFolder]
  | barred hbarred => exact hbarred.content?_createFolder

variable {c : Call} {a : c.Answer}

theorem content?_of_failed (h : Runs Disk.Moves d (s.answer c) ms (a, s') d') (ha : c.isOk a = false)
    (hbeside : parts s.path ≠ parts (temporary s.path)) :
    d'.content? (parts s.path) = d.content? (parts s.path) := by
  cases c with
  | get key =>
    obtain ⟨-, hanswer, -⟩ := runs_pure_iff.mp h
    cases hanswer
    cases ha
  | set key value => exact content?_of_persist (runs_rewrite h).2 ha hbeside
  | remove key =>
    rw [JsonFile.answer] at h
    split at h
    · exact content?_of_persist (runs_rewrite h).2 ha hbeside
    · obtain ⟨-, hanswer, -⟩ := runs_pure_iff.mp h
      cases hanswer
      cases ha

private theorem Effect.writes_of_failed (h : Effect s d c ms a s' d') (ha : c.isOk a = false) :
    c.writes s.entries = true := by
  cases h with
  | idle _ _ =>
    cases c <;> cases ha
  | stored hwrites _ => exact hwrites
  | failed hwrites _ _ => exact hwrites

/-- A call that failed has changed what the store answers from, unless it was to set what was there already. -/
theorem get?_of_failed (h : Runs Disk.Moves d (s.answer c) ms (a, s') d') (ha : c.isOk a = false) :
    (∀ k, s'.entries.get? k = s.entries.get? k) ↔
      ∃ key value, c = .set key value ∧ s.entries.get? key = some value := by
  have heffect := effect_of_runs h
  rw [heffect.eq_memory]
  have hwrites := heffect.writes_of_failed ha
  cases c with
  | get key => cases hwrites
  | set key value =>
    have hget : ∀ k, Entries.get? (s.inMemory.answer (.set key value)).2.entries k =
        if k = key then some value else s.entries.get? k := Entries.get?_insert s.entries key value
    constructor
    · intro hsame
      have hkey := (hget key).symm.trans (hsame key)
      rw [if_pos rfl] at hkey
      exact ⟨key, value, rfl, hkey.symm⟩
    · rintro ⟨key', value', hc, hkey⟩ k
      cases hc
      rw [hget k]
      split
      · rename_i hk
        rw [hk, hkey]
      · rfl
  | remove key =>
    have hget : ∀ k, Entries.get? (s.inMemory.answer (.remove key)).2.entries k =
        if k = key then none else s.entries.get? k := Entries.get?_erase s.entries key
    constructor
    · intro hsame
      have hkey := (hget key).symm.trans (hsame key)
      rw [if_pos rfl] at hkey
      rw [Call.writes, ← hkey] at hwrites
      cases hwrites
    · rintro ⟨_, _, hc, -⟩
      cases hc

end Store

end AccountSync
