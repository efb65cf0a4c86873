import AccountSync.Proofs.Account.Reading
import AccountSync.Proofs.Store.Persistence
import AccountSync.Store.AccountFile

/-!
The account as a file. A file that an account was saved to is loaded as that account (`load_of_content`), and
`serve_stores` follows the file through any sequence of calls. Main statement: `account_survives`, that a login state is
all that its text tells, and that after any calls in which no operation on files failed the last state that was saved is
loaded.
-/

set_option autoImplicit false
set_option relaxedAutoImplicit false

namespace AccountSync.AccountStore

abbrev Reply := (c : Call) × c.Answer

/-- The account that calls leave in the store, if any of them saves one. -/
def lastSaved : List Call → Option Account
  | [] => none
  | .load :: calls => lastSaved calls
  | .save account :: calls => (lastSaved calls).or (some account)

def Reply.Accepted : Reply → Prop
  | ⟨.load, _⟩ => True
  | ⟨.save _, a⟩ => a = .ok ()

namespace File

open AccountSync.File
open Dialogue

def serve (path : String) : List Call → Talk (List Reply)
  | [] => pure []
  | c :: calls => do
    let a ← answer path c
    let replies ← serve path calls
    pure (⟨c, a⟩ :: replies)

variable {d d' : Disk} {path text : String} {account : Account} {ms : List (Moment Question.Answer Disk)}

private theorem save_cases {r : Except SyncError Unit} (h : Runs Disk.Moves d (save path account) ms r d') :
    r = .ok () ∧ d'.content? (parts path) = some (Text.Utf8.bytes account.json.pretty) ∨
      (∃ e, r = .error e) ∧ ∃ m ∈ ms, ¬ Succeeds m.exchange := by
  rcases Store.runs_if h with ⟨xs, d₁, ys, -, hfile, rfl⟩ | ⟨hfolder, rfl⟩
  · rcases Store.runs_if hfile with ⟨ys, d₂, zs, hwrite, hdone, rfl⟩ | ⟨hwrite, rfl⟩
    · obtain ⟨rfl, rfl, rfl⟩ := runs_pure_iff.mp hdone
      obtain ⟨-, hwritten⟩ := runs_question_iff.mp hwrite
      exact .inl ⟨rfl, hwritten.content?_write⟩
    · obtain ⟨rfl, -⟩ := runs_question_iff.mp hwrite
      exact .inr ⟨⟨_, rfl⟩, _, List.mem_append_right _ (List.mem_singleton_self _), Bool.false_ne_true⟩
  · obtain ⟨rfl, -⟩ := runs_question_iff.mp hfolder
    exact .inr ⟨⟨_, rfl⟩, _, List.mem_singleton_self _, Bool.false_ne_true⟩

theorem load_of_content (h : d.content? (parts path) = some (Text.Utf8.bytes text))
    (htext : account.Written text) : (load path).run Disk.answer d = (.ok (some account), d) := by
  have hpresent : d.answer (.isPresent path) = (true, d) := by
    rw [Disk.answer, Store.isSome_node?_of_content h]
  have hread : d.answer (.read path) = (some text, d) := by
    rw [Disk.answer, h, Option.bind_some, Text.Utf8.decode?_bytes]
  rw [load, run_bind, run_question, hpresent]
  dsimp only
  rw [if_pos rfl, run_bind, run_question, hread]
  dsimp only
  rw [Account.ofText_of_written htext]
  rfl

private theorem leads_load (path : String) : Leads Disk.Moves Eq (load path) := by
  have htrans : ∀ d₁ d₂ d₃ : Disk, d₁ = d₂ → d₂ = d₃ → d₁ = d₃ := fun _ _ _ => Eq.trans
  have hpresent : Leads Disk.Moves Eq (question (Question.isPresent path) : Talk Bool) := by
    intro d ms a d' h
    obtain ⟨-, hmove⟩ := runs_question_iff.mp h
    cases hmove
    rfl
  have hread : Leads Disk.Moves Eq (question (Question.read path) : Talk (Option String)) := by
    intro d ms a d' h
    obtain ⟨-, hmove⟩ := runs_question_iff.mp h
    cases hmove
    rfl
  refine leads_bind htrans hpresent fun present => ?_
  split
  · refine leads_bind htrans hread fun text => ?_
    split
    · exact leads_pure (fun _ => rfl) _
    · split
      · exact leads_pure (fun _ => rfl) _
      · exact leads_pure (fun _ => rfl) _
  · exact leads_pure (fun _ => rfl) _

/-- While no operation on files fails, every save is accepted, and the file holds the text of the last account that was
saved. Before the first save the disk is as it was. -/
theorem serve_stores {calls : List Call} {replies : List Reply}
    (h : Runs Disk.Moves d (serve path calls) ms replies d') (hio : ∀ m ∈ ms, Succeeds m.exchange) :
    (∀ reply ∈ replies, reply.Accepted) ∧ (lastSaved calls = none → d' = d) ∧
      ∀ a, lastSaved calls = some a → d'.content? (parts path) = some (Text.Utf8.bytes a.json.pretty) := by
  induction calls generalizing d ms replies with
  | nil =>
    obtain ⟨-, rfl, rfl⟩ := runs_pure_iff.mp h
    exact ⟨nofun, fun _ => rfl, nofun⟩
  | cons c calls ih =>
    obtain ⟨xs, a, d₁, ys, hcall, hrest, rfl⟩ := runs_bind_iff.mp h
    obtain ⟨ys, replies, d₂, zs, hserve, hdone, rfl⟩ := runs_bind_iff.mp hrest
    obtain ⟨rfl, rfl, rfl⟩ := runs_pure_iff.mp hdone
    obtain ⟨hreplies, hnone, hsome⟩ :=
      ih hserve fun m hm => hio m (List.mem_append_right _ (List.mem_append_left _ hm))
    cases c with
    | load =>
      obtain rfl := leads_load path _ _ _ _ hcall
      exact ⟨List.forall_mem_cons.mpr ⟨trivial, hreplies⟩, hnone, hsome⟩
    | save account =>
      obtain ⟨rfl, hcontent⟩ | ⟨-, m, hm, hfault⟩ := save_cases hcall
      · refine ⟨List.forall_mem_cons.mpr ⟨rfl, hreplies⟩, by simp [lastSaved], ?_⟩
        intro b hb
        rw [lastSaved] at hb
        cases hlast : lastSaved calls with
        | none =>
          rw [hlast] at hb
          cases hb
          rw [hnone hlast, hcontent]
        | some last =>
          rw [hlast] at hb
          cases hb
          exact hsome _ hlast
      · exact (hfault (hio m (List.mem_append_left _ hm))).elim

/-- A login state is read from either of its texts as it was written, so that no two states have a text in common. After
any calls on the store that keeps it in a file, if no operation on files failed, what is loaded is the last state that
was saved. -/
theorem account_survives :
    (∀ (a : Account) text, a.Written text → Account.read.ofText text = some a) ∧
    (∀ (a b : Account) text, a.Written text → b.Written text → a = b) ∧
    ∀ path d calls ms replies d', Runs Disk.Moves d (serve path calls) ms replies d' →
      (∀ m ∈ ms, Succeeds m.exchange) → (∀ reply ∈ replies, reply.Accepted) ∧
      ∀ a, lastSaved calls = some a → (load path).run Disk.answer d' = (.ok (some a), d') := by
  refine ⟨fun a text h => Account.ofText_of_written h, fun a b text ha hb => Account.eq_of_written ha hb, ?_⟩
  intro path d calls ms replies d' h hio
  obtain ⟨hreplies, -, hsome⟩ := serve_stores h hio
  exact ⟨hreplies, fun a ha => load_of_content (hsome a ha) (.inr rfl)⟩

/-- An account whose strings need escapes, with a key pair of its own. -/
def paired : Account :=
  .married ⟨⟨"é\"\n", "\x01", "s", .zero, .zero, ⟨⟨List.replicate 32 7, rfl⟩⟩⟩, "c"⟩

/-- A disk with a file that tells nothing. -/
def empty : Disk := ⟨[(["s.json"], .file [])]⟩

def savings : List Call := [.load, .save paired.toSeparated, .save paired]

theorem account_survives_paired : Account.read.ofText paired.json.compact = some paired ∧
    ∃ replies d, (serve "s.json" savings).run Disk.answer empty = (replies, d) ∧
      (∀ reply ∈ replies, reply.Accepted) ∧ (load "s.json").run Disk.answer d = (.ok (some paired), d) := by
  obtain ⟨hread, -, hfile⟩ := account_survives
  have hio : ∀ m ∈ (serve "s.json" savings).record Disk.answer empty, Succeeds m.exchange := by
    decide +kernel
  obtain ⟨hreplies, hload⟩ := hfile _ _ _ _ _ _ (Store.runs_run _ _) hio
  exact ⟨hread paired _ (.inl rfl), _, _, rfl, hreplies, hload paired rfl⟩

end File

end AccountSync.AccountStore
