import Mathlib.Data.List.TakeWhile
import AccountSync.File.Disk
import AccountSync.Proofs.Dialogue.Runs
import AccountSync.Proofs.Json.Reading
import AccountSync.Store.JsonFile

/-!
The store that keeps a file, on a disk where creating folders, writing and moving may fail at any time. Entries are read
back from their text (`Entries.ofText_pretty`), and `Effect` lists the ways through a call. Main statement:
`reopens_of_ok`, that a call which succeeds leaves the file with the entries that the store answers from, whatever has
failed before; for a key that the store does not have this takes that nothing has failed since the last write, as
`removed_comes_back` shows.
-/

set_option autoImplicit false
set_option relaxedAutoImplicit false

namespace AccountSync

namespace Store.Entries

/-- Keys stand in order, each once. -/
def Sorted (es : Entries) : Prop := es.Pairwise fun a b => a.1 < b.1

variable {es : Entries} {key value : String}

private theorem mem_insert {e : String × String} (h : e ∈ insert key value es) : e = (key, value) ∨ e ∈ es := by
  induction es with
  | nil => exact .inl (List.mem_singleton.mp h)
  | cons first es ih =>
    obtain ⟨k, v⟩ := first
    unfold insert at h
    split at h
    · rcases List.mem_cons.mp h with rfl | h
      · exact .inr List.mem_cons_self
      · exact (ih h).imp id (List.mem_cons_of_mem _)
    · split at h
      · exact (List.mem_cons.mp h).imp id (List.mem_cons_of_mem _)
      · exact List.mem_cons.mp h

private theorem sorted_insert (h : Sorted es) (key value : String) : Sorted (insert key value es) := by
  induction es with
  | nil => exact List.pairwise_singleton _ _
  | cons first es ih =>
    obtain ⟨k, v⟩ := first
    obtain ⟨hfirst, hrest⟩ := List.pairwise_cons.mp h
    unfold insert
    split
    · rename_i hlt
      refine List.pairwise_cons.mpr ⟨?_, ih hrest⟩
      intro e he
      rcases mem_insert he with rfl | he
      · exact hlt
      · exact hfirst e he
    · rename_i hle
      split
      · rename_i heq
        subst heq
        exact List.pairwise_cons.mpr ⟨hfirst, hrest⟩
      · rename_i hne
        have hlt : key < k := Std.lt_of_le_of_ne (String.not_lt.mp hle) fun h => hne h.symm
        refine List.pairwise_cons.mpr ⟨?_, h⟩
        intro e he
        rcases List.mem_cons.mp he with rfl | he
        · exact hlt
        · exact String.lt_trans hlt (hfirst e he)

private theorem sorted_erase (h : Sorted es) (key : String) : Sorted (es.erase key) :=
  List.Pairwise.filter _ h

private theorem sorted_foldl (h : Sorted es) (ps : List (String × String)) :
    Sorted (ps.foldl (fun es p => es.insert p.1 p.2) es) := by
  induction ps generalizing es with
  | nil => exact h
  | cons p ps ih => exact ih (sorted_insert h p.1 p.2)

private theorem insert_of_lt (h : ∀ e ∈ es, e.1 < key) : insert key value es = es ++ [(key, value)] := by
  induction es with
  | nil => rfl
  | cons first es ih =>
    rw [insert, if_pos (h first List.mem_cons_self), ih fun e he => h e (List.mem_cons_of_mem first he)]
    rfl

private theorem foldl_insert (ps : List (String × String)) (h : Sorted (es ++ ps)) :
    ps.foldl (fun es p => es.insert p.1 p.2) es = es ++ ps := by
  induction ps generalizing es with
  | nil => exact (List.append_nil es).symm
  | cons p ps ih =>
    have hlast : ∀ e ∈ es, e.1 < p.1 := by
      intro e he
      exact (List.pairwise_append.mp h).2.2 e he p List.mem_cons_self
    rw [List.foldl_cons, insert_of_lt hlast]
    have hassoc : es ++ [(p.1, p.2)] ++ ps = es ++ p :: ps := by rw [List.append_assoc]; rfl
    rw [ih (hassoc ▸ h), hassoc]

private theorem ofList_eq (h : Sorted es) : ofList es = es := foldl_insert es h

private theorem erase_of_get?_none (h : es.get? key = none) : es.erase key = es := by
  rw [erase, List.filter_eq_self]
  intro e he
  rw [get?, Option.map_eq_none_iff, List.find?_eq_none] at h
  simpa using h e he

private theorem branches_map (es : Entries) :
    Json.branches (es.map fun e => (e.1, Json.string e.2)) =
      es.map fun e => (some e.1, Json.Tree.string (some e.2)) := by
  induction es with
  | nil => rfl
  | cons e es ih => rw [List.map_cons, Json.branches, ih]; rfl

private theorem whole_json (es : Entries) : es.json.Whole := by
  rw [json, Json.Whole]
  induction es with
  | nil => trivial
  | cons e es ih => exact ⟨trivial, ih⟩

private theorem read_tree (es : Entries) : read es.json.tree = some (ofList es) := by
  have hmap : ∀ es : Entries, (es.map fun e => (some e.1, Json.Tree.string (some e.2))).mapM
      (fun m : Option String × Json.Tree => do pure (← m.1, ← Json.Reader.string m.2)) = some es := by
    intro es
    induction es with
    | nil => rfl
    | cons e es ih => rw [List.map_cons, List.mapM_cons, ih]; rfl
  rw [json, Json.tree, branches_map, read, hmap]
  rfl

private theorem exists_pretty (es : Entries) : ∃ rest, es.json.pretty.toList = '\x7b' :: rest := by
  rw [Json.pretty, String.toList_ofList]
  cases es with
  | nil => exact ⟨_, rfl⟩
  | cons e es => exact ⟨_, rfl⟩

private theorem not_blank_pretty (es : Entries) : (Text.trim es.json.pretty).isEmpty = false := by
  obtain ⟨rest, h⟩ := exists_pretty es
  have hbrace : Text.isBlank '\x7b' = false := by decide
  have hstart : Text.trimStart ('\x7b' :: rest) = '\x7b' :: rest := by
    rw [Text.trimStart, List.dropWhile_cons, hbrace, if_neg Bool.false_ne_true]
  have hend : Text.trimEnd ('\x7b' :: rest) ≠ [] := by
    intro hnil
    rw [Text.trimEnd, List.reverse_eq_nil_iff, List.dropWhile_eq_nil_iff] at hnil
    exact Bool.false_ne_true (hbrace.symm.trans (hnil '\x7b' (by simp)))
  rw [Text.trim, h, hstart]
  simpa using hend

theorem ofText_pretty (h : Sorted es) : ofText es.json.pretty = .ok es := by
  rw [ofText, if_neg (by simp [not_blank_pretty]), Json.ofText_pretty read (whole_json es), read_tree, ofList_eq h]

private theorem sorted_of_read {t : Json.Tree} (h : read t = some es) : Sorted es := by
  unfold read at h
  split at h
  · obtain ⟨ps, -, hes⟩ := Option.bind_eq_some_iff.mp h
    cases hes
    exact sorted_foldl .nil ps
  · cases h

private theorem sorted_of_ofText {text : String} (h : ofText text = .ok es) : Sorted es := by
  unfold ofText at h
  split at h
  · cases h
    exact .nil
  · split at h
    · rename_i es' hread
      cases h
      obtain ⟨t, -, ht⟩ := Option.bind_eq_some_iff.mp hread
      exact sorted_of_read ht
    · cases h

end Store.Entries

namespace File

open Dialogue (Exchange)

def Succeeds : Exchange Question.Answer → Prop
  | ⟨.isPresent _, _⟩ => True
  | ⟨.read _, text⟩ => text ≠ none
  | ⟨.createFolder _, done⟩ => done = true
  | ⟨.write .., done⟩ => done = true
  | ⟨.rename .., done⟩ => done = true
  | ⟨.remove _, done⟩ => done = true

instance : DecidablePred Succeeds
  | ⟨.isPresent _, _⟩ => .isTrue trivial
  | ⟨.read _, text⟩ => inferInstanceAs (Decidable (text ≠ none))
  | ⟨.createFolder _, done⟩ => inferInstanceAs (Decidable (done = true))
  | ⟨.write .., done⟩ => inferInstanceAs (Decidable (done = true))
  | ⟨.rename .., done⟩ => inferInstanceAs (Decidable (done = true))
  | ⟨.remove _, done⟩ => inferInstanceAs (Decidable (done = true))

namespace Disk

/-- What may happen on a disk where creating folders, writing and moving may fail at any time. A write that fails may
leave something else in its place. -/
inductive Moves (d : Disk) : Exchange Question.Answer → Disk → Prop
  | answer (q : Question) : Moves d ⟨q, (d.answer q).1⟩ (d.answer q).2
  | createFolder (path : String) (made : List String) :
      made <+: parts path → Moves d ⟨.createFolder path, false⟩ (d.createFolders [] made).2
  | write (path text : String) : Moves d ⟨.write path text, false⟩ d
  | writePartly (path text : String) (left : List UInt8) :
      d.isFree (parts path) = true → Moves d ⟨.write path text, false⟩ (d.place (parts path) (.file left))
  | rename (source target : String) : Moves d ⟨.rename source target, false⟩ d

variable {d d' : Disk} {x : Exchange Question.Answer} {path source target text : String} {content : List UInt8}

theorem Moves.eq_answer (h : d.Moves x d') (hx : Succeeds x) :
    x.answer = (d.answer x.question).1 ∧ d' = (d.answer x.question).2 := by
  cases h with
  | answer q => exact ⟨rfl, rfl⟩
  | createFolder path made _ => exact (Bool.false_ne_true hx).elim
  | write path text => exact (Bool.false_ne_true hx).elim
  | writePartly path text left _ => exact (Bool.false_ne_true hx).elim
  | rename source target => exact (Bool.false_ne_true hx).elim

private theorem lookup_filter_of_ne {nodes : List (List String × Node)} {path other : List String} (h : other ≠ path) :
    (nodes.filter (·.1 ≠ path)).lookup other = nodes.lookup other := by
  induction nodes with
  | nil => rfl
  | cons node nodes ih =>
    by_cases hnode : node.1 = path
    · have hother : (other == node.1) = false := by simpa [hnode] using h
      rw [List.filter_cons_of_neg (by simpa using hnode), ih, List.lookup_cons, hother]
    · rw [List.filter_cons_of_pos (by simpa using hnode), List.lookup_cons, List.lookup_cons, ih]

theorem node?_place {path other : List String} {node : Node} (h : path ≠ []) :
    (d.place path node).node? other = if other = path then some node else d.node? other := by
  unfold node? place
  split
  · rename_i hempty
    rw [if_neg]
    rintro rfl
    exact h (List.isEmpty_iff.mp hempty)
  · rw [List.lookup_append]
    split
    · rename_i heq
      subst heq
      have hbefore : (d.nodes.filter (·.1 ≠ other)).lookup other = none := by
        rw [List.lookup_eq_none_iff]
        intro node hnode
        have hne : node.1 ≠ other := by simpa using (List.mem_filter.mp hnode).2
        simpa using hne.symm
      rw [hbefore]
      simp
    · rename_i hne
      have hlast : (other == path) = false := by simpa using hne
      rw [lookup_filter_of_ne hne, List.lookup_cons, hlast]
      simp

private theorem content?_place {path : List String} (h : path ≠ []) :
    (d.place path (.file content)).content? path = some content := by
  rw [content?, node?_place h, if_pos rfl]

theorem ne_nil_of_isFree {path : List String} (h : d.isFree path = true) : path ≠ [] := by
  rintro rfl
  cases h

theorem Moves.content?_write (h : d.Moves ⟨.write path text, true⟩ d') :
    d'.content? (parts path) = some (Text.Utf8.bytes text) := by
  obtain ⟨hanswer, rfl⟩ := h.eq_answer rfl
  by_cases hfree : d.isFree (parts path) = true
  · simp only [Disk.answer, hfree, if_true]
    exact content?_place (ne_nil_of_isFree hfree)
  · simp [Disk.answer, hfree] at hanswer

private theorem Moves.content?_rename (h : d.Moves ⟨.rename source target, true⟩ d') :
    d'.content? (parts target) = d.content? (parts source) := by
  obtain ⟨hanswer, rfl⟩ := h.eq_answer rfl
  cases hcontent : d.content? (parts source) with
  | none => simp [Disk.answer, hcontent] at hanswer
  | some content =>
    by_cases hfree : d.isFree (parts target) = true
    · simp only [Disk.answer, hcontent, hfree, if_true]
      exact content?_place (ne_nil_of_isFree hfree)
    · simp [Disk.answer, hcontent, hfree] at hanswer

end Disk

end File

namespace Store

open Dialogue
open File (Disk Succeeds parts)

variable {d d' : Disk} {path : String} {es : Entries} {s s' : JsonFile} {ms : List (Moment File.Question.Answer Disk)}

theorem runs_if {α : Type} {move : Disk → Exchange File.Question.Answer → Disk → Prop} {first : File.Talk Bool}
    {next : File.Talk α} {e r : α} (h : Runs move d (first >>= fun done => if done then next else pure e) ms r d') :
    (∃ xs d₁ ys, Runs move d first xs true d₁ ∧ Runs move d₁ next ys r d' ∧ ms = xs ++ ys) ∨
      Runs move d first ms false d' ∧ r = e := by
  obtain ⟨xs, done, d₁, ys, hfirst, hrest, rfl⟩ := runs_bind_iff.mp h
  cases done with
  | true => exact .inl ⟨xs, d₁, ys, hfirst, hrest, rfl⟩
  | false =>
    obtain ⟨rfl, rfl, rfl⟩ := runs_pure_iff.mp hrest
    rw [List.append_nil]
    exact .inr ⟨hfirst, rfl⟩

/-- The ways through writing entries to the file: all is done, or the first operation that fails ends it. -/
inductive Persisting (path : String) (es : Entries) (d : Disk) :
    List (Moment File.Question.Answer Disk) → Except SyncError Unit → Disk → Prop
  | stored {d₁ d₂ d' : Disk} : d.Moves ⟨.createFolder (File.parent path), true⟩ d₁ →
      d₁.Moves ⟨.write (File.temporary path) es.json.pretty, true⟩ d₂ →
      d₂.Moves ⟨.rename (File.temporary path) path, true⟩ d' →
      Persisting path es d [⟨⟨.createFolder (File.parent path), true⟩, d₁⟩,
        ⟨⟨.write (File.temporary path) es.json.pretty, true⟩, d₂⟩,
        ⟨⟨.rename (File.temporary path) path, true⟩, d'⟩] (.ok ()) d'
  | unmoved {d₁ d₂ d' : Disk} : d.Moves ⟨.createFolder (File.parent path), true⟩ d₁ →
      d₁.Moves ⟨.write (File.temporary path) es.json.pretty, true⟩ d₂ →
      d₂.Moves ⟨.rename (File.temporary path) path, false⟩ d' →
      Persisting path es d [⟨⟨.createFolder (File.parent path), true⟩, d₁⟩,
        ⟨⟨.write (File.temporary path) es.json.pretty, true⟩, d₂⟩,
        ⟨⟨.rename (File.temporary path) path, false⟩, d'⟩] (.error (.storage (File.fault "rename " path))) d'
  | unwritten {d₁ d' : Disk} : d.Moves ⟨.createFolder (File.parent path), true⟩ d₁ →
      d₁.Moves ⟨.write (File.temporary path) es.json.pretty, false⟩ d' →
      Persisting path es d [⟨⟨.createFolder (File.parent path), true⟩, d₁⟩,
        ⟨⟨.write (File.temporary path) es.json.pretty, false⟩, d'⟩]
        (.error (.storage (File.fault "write " (File.temporary path)))) d'
  | barred {d' : Disk} : d.Moves ⟨.createFolder (File.parent path), false⟩ d' →
      Persisting path es d [⟨⟨.createFolder (File.parent path), false⟩, d'⟩]
        (.error (.storage (File.fault "create " (File.parent path)))) d'

theorem persisting_of_runs {r : Except SyncError Unit} (h : Runs Disk.Moves d (JsonFile.persist path es) ms r d') :
    Persisting path es d ms r d' := by
  rcases runs_if h with ⟨xs, d₁, ys, hfolder, hbeside, rfl⟩ | ⟨hfolder, rfl⟩
  · obtain ⟨rfl, hmade⟩ := runs_question_iff.mp hfolder
    rcases runs_if hbeside with ⟨ys, d₂, zs, hwrite, hplace, rfl⟩ | ⟨hwrite, rfl⟩
    · obtain ⟨rfl, hwritten⟩ := runs_question_iff.mp hwrite
      rcases runs_if hplace with ⟨zs, d₃, us, hrename, hdone, rfl⟩ | ⟨hrename, rfl⟩
      · obtain ⟨rfl, hmoved⟩ := runs_question_iff.mp hrename
        obtain ⟨rfl, rfl, rfl⟩ := runs_pure_iff.mp hdone
        exact .stored hmade hwritten hmoved
      · obtain ⟨rfl, hunmoved⟩ := runs_question_iff.mp hrename
        exact .unmoved hmade hwritten hunmoved
    · obtain ⟨rfl, hunwritten⟩ := runs_question_iff.mp hwrite
      exact .unwritten hmade hunwritten
  · obtain ⟨rfl, hbarred⟩ := runs_question_iff.mp hfolder
    exact .barred hbarred

private theorem persist_cases {r : Except SyncError Unit} (h : Runs Disk.Moves d (JsonFile.persist path es) ms r d') :
    r = .ok () ∧ d'.content? (parts path) = some (Text.Utf8.bytes es.json.pretty) ∨
      (∃ e, r = .error e) ∧ ∃ m ∈ ms, ¬ Succeeds m.exchange := by
  cases persisting_of_runs h with
  | stored _ hwritten hmoved => exact .inl ⟨rfl, hmoved.content?_rename.trans hwritten.content?_write⟩
  | unmoved _ _ _ =>
    exact .inr ⟨⟨_, rfl⟩, _, List.mem_cons_of_mem _ (List.mem_cons_of_mem _ (List.mem_singleton_self _)),
      Bool.false_ne_true⟩
  | unwritten _ _ =>
    exact .inr ⟨⟨_, rfl⟩, _, List.mem_cons_of_mem _ (List.mem_singleton_self _), Bool.false_ne_true⟩
  | barred _ => exact .inr ⟨⟨_, rfl⟩, _, List.mem_singleton_self _, Bool.false_ne_true⟩

theorem runs_rewrite {a : Except SyncError Unit} {changed : JsonFile}
    (h : Runs Disk.Moves d (JsonFile.persist path es >>= fun result => pure (result, changed)) ms (a, s') d') :
    s' = changed ∧ Runs Disk.Moves d (JsonFile.persist path es) ms a d' := by
  obtain ⟨xs, result, d₁, ys, hpersist, hdone, rfl⟩ := runs_bind_iff.mp h
  obtain ⟨rfl, hresult, rfl⟩ := runs_pure_iff.mp hdone
  cases hresult
  rw [List.append_nil]
  exact ⟨rfl, hpersist⟩

/-- What the file at a path tells: nothing if there is none. -/
inductive Holds (d : Disk) (path : String) : Entries → Prop
  | missing : d.node? (parts path) = none → Holds d path []
  | told {bs : List UInt8} {text : String} {es : Entries} : d.content? (parts path) = some bs →
      Text.Utf8.decode? bs = some text → Entries.ofText text = .ok es → Holds d path es

theorem sorted_of_holds (h : Holds d path es) : es.Sorted := by
  cases h with
  | missing _ => exact .nil
  | told _ _ htext => exact Entries.sorted_of_ofText htext

theorem holds_of_content (hs : es.Sorted) (h : d.content? (parts path) = some (Text.Utf8.bytes es.json.pretty)) :
    Holds d path es :=
  .told h (Text.Utf8.decode?_bytes _) (Entries.ofText_pretty hs)

theorem isSome_node?_of_content {path : List String} {bs : List UInt8} (h : d.content? path = some bs) :
    (d.node? path).isSome = true := by
  unfold Disk.content? at h
  cases hnode : d.node? path with
  | none => rw [hnode] at h; cases h
  | some node => rfl

/-- A store that is as the file at a path opens now. -/
def JsonFile.Reopens (s : JsonFile) (path : String) (d : Disk) : Prop :=
  (JsonFile.openAt path).run Disk.answer d = (.ok s, d)

theorem reopens_of_holds (h : Holds d path es) : JsonFile.Reopens ⟨path, es⟩ path d := by
  unfold JsonFile.Reopens JsonFile.openAt
  rw [run_bind, run_question]
  cases h with
  | missing hnode =>
    have hpresent : d.answer (.isPresent path) = (false, d) := by rw [Disk.answer, hnode]; rfl
    rw [hpresent]
    rfl
  | @told bs text es hcontent hdecode htext =>
    have hpresent : d.answer (.isPresent path) = (true, d) := by
      rw [Disk.answer, isSome_node?_of_content hcontent]
    have hread : d.answer (.read path) = (some text, d) := by
      rw [Disk.answer, hcontent, Option.bind_some, hdecode]
    rw [hpresent]
    dsimp only
    rw [if_pos rfl, run_bind, run_question, hread]
    dsimp only
    rw [htext]
    rfl

private theorem holds_of_reopens (h : s.Reopens path d) : s.path = path ∧ Holds d path s.entries := by
  unfold JsonFile.Reopens JsonFile.openAt at h
  rw [run_bind, run_question] at h
  cases hnode : d.node? (parts path) with
  | none =>
    have hpresent : d.answer (.isPresent path) = (false, d) := by rw [Disk.answer, hnode]; rfl
    rw [hpresent] at h
    cases h
    exact ⟨rfl, .missing hnode⟩
  | some node =>
    have hpresent : d.answer (.isPresent path) = (true, d) := by rw [Disk.answer, hnode]; rfl
    rw [hpresent] at h
    dsimp only at h
    rw [if_pos rfl, run_bind, run_question] at h
    cases hread : (d.content? (parts path)).bind Text.Utf8.decode? with
    | none =>
      rw [Disk.answer, hread] at h
      cases h
    | some text =>
      obtain ⟨bs, hcontent, hdecode⟩ := Option.bind_eq_some_iff.mp hread
      rw [Disk.answer, hread] at h
      dsimp only at h
      cases htext : Entries.ofText text with
      | error e =>
        rw [htext] at h
        cases h
      | ok es =>
        rw [htext] at h
        cases h
        exact ⟨rfl, .told hcontent hdecode htext⟩

def Call.isOk : (c : Call) → c.Answer → Bool
  | .get _, a => a.isOk
  | .set .., a => a.isOk
  | .remove _, a => a.isOk

/-- Whether a call has the file written. A key that is not there need not be removed. -/
def Call.writes (es : Entries) : Call → Bool
  | .get _ => false
  | .set .. => true
  | .remove key => (es.get? key).isSome

abbrev JsonFile.inMemory (s : JsonFile) : Memory := { entries := s.entries }

/-- The ways through a call. The entries change as in memory, whether they could be written or not. -/
inductive Effect (s : JsonFile) (d : Disk) (c : Call) (ms : List (Moment File.Question.Answer Disk)) :
    c.Answer → JsonFile → Disk → Prop
  | idle : c.writes s.entries = false → (s.inMemory.answer c).2.entries = s.entries →
      Effect s d c ms (s.inMemory.answer c).1 s d
  | stored {d' : Disk} : c.writes s.entries = true →
      d'.content? (parts s.path) = some (Text.Utf8.bytes (Entries.json (s.inMemory.answer c).2.entries).pretty) →
      Effect s d c ms (s.inMemory.answer c).1 ⟨s.path, (s.inMemory.answer c).2.entries⟩ d'
  | failed {d' : Disk} {a : c.Answer} : c.writes s.entries = true → c.isOk a = false →
      (∃ m ∈ ms, ¬ Succeeds m.exchange) → Effect s d c ms a ⟨s.path, (s.inMemory.answer c).2.entries⟩ d'

variable {c : Call} {a : c.Answer}

theorem effect_of_runs (h : Runs Disk.Moves d (s.answer c) ms (a, s') d') : Effect s d c ms a s' d' := by
  cases c with
  | get key =>
    obtain ⟨-, ha, rfl⟩ := runs_pure_iff.mp h
    cases ha
    exact .idle rfl rfl
  | set key value =>
    obtain ⟨rfl, hpersist⟩ := runs_rewrite h
    rcases persist_cases hpersist with ⟨rfl, hcontent⟩ | ⟨⟨e, rfl⟩, hfault⟩
    · exact .stored rfl hcontent
    · exact .failed rfl rfl hfault
  | remove key =>
    by_cases hkey : (s.entries.get? key).isSome = true
    · rw [JsonFile.answer, if_pos hkey] at h
      obtain ⟨rfl, hpersist⟩ := runs_rewrite h
      rcases persist_cases hpersist with ⟨rfl, hcontent⟩ | ⟨⟨e, rfl⟩, hfault⟩
      · exact .stored hkey hcontent
      · exact .failed hkey rfl hfault
    · rw [JsonFile.answer, if_neg hkey] at h
      obtain ⟨-, ha, rfl⟩ := runs_pure_iff.mp h
      cases ha
      have hnone : s.entries.get? key = none := by simpa using hkey
      exact .idle (Bool.not_eq_true _ ▸ hkey) (Entries.erase_of_get?_none hnone)

theorem sorted_answer (h : s.entries.Sorted) (c : Call) : Entries.Sorted (s.inMemory.answer c).2.entries := by
  cases c with
  | get key => exact h
  | set key value => exact Entries.sorted_insert h key value
  | remove key => exact Entries.sorted_erase h key

theorem Effect.eq_memory (h : Effect s d c ms a s' d') : s' = ⟨s.path, (s.inMemory.answer c).2.entries⟩ := by
  cases h with
  | idle _ hentries => rw [hentries]
  | stored _ _ => rfl
  | failed _ _ _ => rfl

/-- After a call that wrote the file, this tells what the store answers from. After one that had nothing to write it
does if it did before. -/
theorem Effect.holds (h : Effect s d c ms a s' d') (hs : s.entries.Sorted) (hok : c.isOk a = true)
    (hbefore : c.writes s.entries = true ∨ Holds d s.path s.entries) : Holds d' s'.path s'.entries := by
  cases h with
  | idle hidle _ =>
    rcases hbefore with hwrites | hbefore
    · exact (Bool.false_ne_true (hidle.symm.trans hwrites)).elim
    · exact hbefore
  | stored _ hcontent => exact holds_of_content (sorted_answer hs c) hcontent
  | failed _ hfailed _ => exact (Bool.false_ne_true (hfailed.symm.trans hok)).elim

/-- A store that was opened at a path, after any calls. It is told whether the file has been written since the last
call that failed, if any did. -/
inductive Kept (path : String) : Bool → JsonFile → Disk → Prop
  | opened {d : Disk} {s : JsonFile} : s.Reopens path d → Kept path true s d
  | called {settled : Bool} {s s' : JsonFile} {d d' : Disk} {c : Call} {a : c.Answer}
      {ms : List (Moment File.Question.Answer Disk)} : Kept path settled s d →
      Runs Disk.Moves d (s.answer c) ms (a, s') d' →
      Kept path (c.isOk a && (c.writes s.entries || settled)) s' d'

variable {settled : Bool}

private theorem Kept.sorted (h : Kept path settled s d) : s.entries.Sorted := by
  induction h with
  | opened hopen => exact sorted_of_holds (holds_of_reopens hopen).2
  | called _ hrun ih =>
    rw [(effect_of_runs hrun).eq_memory]
    exact sorted_answer ih _

private theorem Kept.path_eq (h : Kept path settled s d) : s.path = path := by
  induction h with
  | opened hopen => exact (holds_of_reopens hopen).1
  | called _ hrun ih =>
    rw [(effect_of_runs hrun).eq_memory]
    exact ih

private theorem Kept.holds (h : Kept path settled s d) (hsettled : settled = true) : Holds d s.path s.entries := by
  induction h with
  | opened hopen =>
    obtain ⟨rfl, hholds⟩ := holds_of_reopens hopen
    exact hholds
  | called hbefore hrun ih =>
    obtain ⟨hok, hwrites⟩ := Bool.and_eq_true_iff.mp hsettled
    exact (effect_of_runs hrun).holds hbefore.sorted hok ((Bool.or_eq_true_iff.mp hwrites).imp id ih)

/-- A key that was set is in the file when the call succeeds, with all else that the store answers from. So it is after
a key was removed, if the store had it or no call has failed since the file was last written. -/
theorem reopens_of_ok (h : Kept path settled s d) :
    (∀ key value ms s' d', Runs Disk.Moves d (s.answer (.set key value)) ms (.ok (), s') d' → s'.Reopens path d' ∧
      ∀ k, s'.entries.get? k = if k = key then some value else s.entries.get? k) ∧
    (∀ key ms s' d', Runs Disk.Moves d (s.answer (.remove key)) ms (.ok (), s') d' →
      ((s.entries.get? key).isSome = true ∨ settled = true → s'.Reopens path d') ∧
      ∀ k, s'.entries.get? k = if k = key then none else s.entries.get? k) := by
  obtain rfl := h.path_eq
  have hbefore : settled = true → Holds d s.path s.entries := h.holds
  refine ⟨?_, ?_⟩
  · intro key value ms s' d' hrun
    have heffect := effect_of_runs hrun
    have hholds := heffect.holds h.sorted rfl (.inl rfl)
    rw [heffect.eq_memory] at hholds ⊢
    exact ⟨reopens_of_holds hholds, Entries.get?_insert s.entries key value⟩
  · intro key ms s' d' hrun
    have heffect := effect_of_runs hrun
    refine ⟨?_, ?_⟩
    · intro hkey
      have hholds := heffect.holds h.sorted rfl (hkey.imp id hbefore)
      rw [heffect.eq_memory] at hholds ⊢
      exact reopens_of_holds hholds
    · rw [heffect.eq_memory]
      exact Entries.get?_erase s.entries key

theorem runs_run {α : Type} (t : File.Talk α) (d : Disk) :
    Runs Disk.Moves d t (t.record Disk.answer d) (t.run Disk.answer d).1 (t.run Disk.answer d).2 :=
  runs_record (fun q _ => .answer q) t d

def refusing (q : File.Question) (d : Disk) : q.Answer × Disk :=
  match q with
  | .write .. => (false, d)
  | q => d.answer q

private theorem moves_refusing (q : File.Question) (d : Disk) : d.Moves ⟨q, (refusing q d).1⟩ (refusing q d).2 := by
  cases q with
  | write path text => exact .write path text
  | _ => exact .answer _

private theorem kept_unwritten : Kept "s.json" false ⟨"s.json", [("a", "1")]⟩ {} := by
  have hopen : JsonFile.Reopens ⟨"s.json", []⟩ "s.json" {} := rfl
  have hset : (JsonFile.answer ⟨"s.json", []⟩ (.set "a" "1")).run refusing {} =
      ((.error (.storage (File.fault "write " "s.tmp")), ⟨"s.json", [("a", "1")]⟩), {}) := rfl
  have hrun := runs_record moves_refusing (JsonFile.answer ⟨"s.json", []⟩ (.set "a" "1")) {}
  rw [hset] at hrun
  exact .called (.opened hopen) hrun

/-- The second call has the file written with what the first one left in memory. -/
theorem reopens_of_ok_unwritten : ∃ s d, Kept "s.json" false s d ∧ ∃ ms s' d',
    Runs Disk.Moves d (s.answer (.set "b" "2")) ms (.ok (), s') d' ∧ s'.Reopens "s.json" d' ∧
    s'.entries.get? "a" = some "1" ∧ s'.entries.get? "b" = some "2" := by
  have hrun := runs_run (JsonFile.answer ⟨"s.json", [("a", "1")]⟩ (.set "b" "2")) {}
  obtain ⟨hreopens, hentries⟩ := (reopens_of_ok kept_unwritten).1 _ _ _ _ _ hrun
  exact ⟨_, _, kept_unwritten, _, _, _, hrun, hreopens, hentries "a", hentries "b"⟩

/-- A disk on which nothing can be written beside the file. -/
def blocked : Disk :=
  ⟨[(["s.json"], .file (Text.Utf8.bytes "\x7b\"a\":\"1\"\x7d")), (["s.tmp"], .folder)]⟩

/-- A key that could not be taken from the file is gone from memory, so taking it away again succeeds without a write;
the file still tells it. -/
theorem removed_comes_back : ∃ s, Kept "s.json" false s blocked ∧
    (s.answer (.remove "a")).run Disk.answer blocked = ((.ok (), s), blocked) ∧ s.entries.get? "a" = none ∧
    ∃ s' : JsonFile, s'.Reopens "s.json" blocked ∧ s'.entries.get? "a" = some "1" := by
  have hopen : JsonFile.Reopens ⟨"s.json", [("a", "1")]⟩ "s.json" blocked := rfl
  have hremove : (JsonFile.answer ⟨"s.json", [("a", "1")]⟩ (.remove "a")).run Disk.answer blocked =
      ((.error (.storage (File.fault "write " "s.tmp")), ⟨"s.json", []⟩), blocked) := rfl
  have hrun := runs_run (JsonFile.answer ⟨"s.json", [("a", "1")]⟩ (.remove "a")) blocked
  rw [hremove] at hrun
  exact ⟨_, .called (.opened hopen) hrun, rfl, rfl, _, hopen, rfl⟩

end Store

end AccountSync
