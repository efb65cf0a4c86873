import AccountSync.Attempt.World
import AccountSync.Proofs.Attempt.Arrival
import AccountSync.Proofs.Ledger.Records

/-!
An attempt seen from what its ledger has on record about storage hosts, at any times; what it does in a world can be
seen so (`exists_runs_reads`). Only a switch of hosts and the engine write to these records, so all that comes before
leaves them (`sameRecords_of_asks`), and `gated_of_reads` says what a deadline does to an attempt that has to wait for
it.
-/

set_option autoImplicit false
set_option relaxedAutoImplicit false

namespace AccountSync.Attempt

open Dialogue

/-- Surroundings seen as the ledger at any times: the ledger's clock is the time that was last read, and others
answer anything. -/
def Reads (s : Ledger.State) (x : Exchange Question.Answer) (s' : Ledger.State) : Prop :=
  match x with
  | ⟨.ledger q, a⟩ => Ledger.Reads s ⟨q, a⟩ s'
  | _ => s' = s

def Question.Spares : Question → Prop
  | .ledger q => q.Spares
  | _ => True

def Question.Looks : Question → Prop
  | .ledger q => q.Looks
  | _ => True

def readings (xs : Exchanges) : List Instant := xs.filterMap reading?

variable {α : Type} {c : Client} {forced : Bool} {p : Ledger.Purpose} {s s' : Ledger.State} {ms : Moments Ledger.State}
  {parts : List Part}

private theorem readings_append (xs ys : Exchanges) : readings (xs ++ ys) = readings xs ++ readings ys :=
  List.filterMap_append

private theorem readings_ofLedger (ns : Ledger.Moments) :
    readings (exchangesOf (ns.map ofLedger)) = Ledger.readings ns := by
  induction ns with
  | nil => rfl
  | cons n ns ih =>
    obtain ⟨⟨q, a⟩, t⟩ := n
    have hcons : readings (exchangesOf (ofLedger ⟨⟨q, a⟩, t⟩ :: ns.map ofLedger)) =
        (reading? ⟨.ledger q, a⟩).toList ++ readings (exchangesOf (ns.map ofLedger)) := by
      rw [exchangesOf_cons, ← List.singleton_append, readings_append]
      cases q <;> rfl
    rw [List.map_cons, hcons, ih]
    cases q <;> rfl

theorem reads_books {d : Ledger.Talk α} {a : α} (h : Runs Reads s (books d) ms a s') :
    ∃ ns, ms = ns.map ofLedger ∧ Runs Ledger.Reads s d ns a s' :=
  ledger_of_runs (fun _ _ _ _ hm => hm) h

private theorem Reads.sameRecords {x : Exchange Question.Answer} (h : Reads s x s') (hx : x.question.Spares) :
    Ledger.SameRecords s s' := by
  obtain ⟨q, a⟩ := x
  cases q with
  | ledger q => exact Ledger.Reads.sameRecords h hx
  | account call =>
    obtain rfl : s' = s := h
    exact .refl _
  | notice event =>
    obtain rfl : s' = s := h
    exact .refl _
  | work duration =>
    obtain rfl : s' = s := h
    exact .refl _
  | party q =>
    obtain rfl : s' = s := h
    exact .refl _

section World

variable {σ : Type} {w : World σ}

/-- A ledger has what a world's has on record, whatever its clock shows. -/
def Shows (s : Ledger.State) (w : World σ) : Prop := s.store = w.ledger.store ∧ s.skews = w.ledger.skews

private theorem exists_reads (others : Others σ) (q : Question) (h : Shows s w) :
    ∃ t, Reads s ⟨q, (World.answer others q w).1⟩ t ∧ Shows t (World.answer others q w).2 := by
  obtain ⟨clock, store, skews⟩ := s
  obtain ⟨⟨later, _, _⟩, accounts, said, inner⟩ := w
  obtain ⟨rfl, rfl⟩ := h
  cases q with
  | ledger q =>
    cases q with
    | now => exact ⟨_, ⟨later, fun hne => (hne rfl).elim, rfl⟩, rfl, rfl⟩
    | store call => exact ⟨_, ⟨clock, fun _ => rfl, rfl⟩, rfl, rfl⟩
    | skew host => exact ⟨_, ⟨clock, fun _ => rfl, rfl⟩, rfl, rfl⟩
    | recordSkew host seconds => exact ⟨_, ⟨clock, fun _ => rfl, rfl⟩, rfl, rfl⟩
  | account call => exact ⟨_, rfl, rfl, rfl⟩
  | notice event => exact ⟨_, rfl, rfl, rfl⟩
  | work duration => exact ⟨_, rfl, rfl, rfl⟩
  | party q => exact ⟨_, rfl, rfl, rfl⟩

/-- What a dialogue comes to in a world is one of its runs, in which the clock shows the times that were read. -/
theorem exists_runs_reads (others : Others σ) (d : Talk α) (h : Shows s w) :
    ∃ ms s', Runs Reads s d ms (d.run (World.answer others) w).1 s' ∧
      exchangesOf ms = d.exchanges (World.answer others) w ∧ Shows s' (d.run (World.answer others) w).2 := by
  induction d generalizing s w with
  | done a => exact ⟨[], s, ⟨.done a, .nil s⟩, rfl, h⟩
  | ask q next ih =>
    obtain ⟨t, hread, ht⟩ := exists_reads others q h
    obtain ⟨ms, s', ⟨hc, hf⟩, hx, hs'⟩ := ih (World.answer others q w).1 ht
    exact ⟨⟨_, t⟩ :: ms, s', ⟨.ask q next _ _ _ hc, .cons hread hf⟩, congrArg _ hx, hs'⟩

end World

theorem sameRecords_of_asks {d : Talk α} {a : α} (h : Runs Reads s d ms a s') (hd : d.Asks Question.Spares) :
    Ledger.SameRecords s s' := by
  refine h.2.keeps Ledger.SameRecords.refl (fun _ _ _ => Ledger.SameRecords.trans) fun t m hm hr => ?_
  exact hr.sameRecords (hd.of_course h.1 m.exchange (List.mem_map_of_mem hm))

theorem spares_of_within {d : Talk α} (hd : d.Asks (Within parts)) (hp : .ledger ∉ parts) : d.Asks Question.Spares := by
  refine hd.mono fun q hq => ?_
  cases q with
  | ledger q => exact (hp hq).elim
  | account call => trivial
  | notice event => trivial
  | work duration => trivial
  | party q => trivial

theorem spares_books {d : Ledger.Talk α} (hd : d.Asks Ledger.Question.Spares) : (books d).Asks Question.Spares :=
  asks_translate hd fun _ hq => asks_question.mpr hq

private theorem spares_gate (p : Ledger.Purpose) (forced : Bool) : (gate p forced).Asks Question.Spares := by
  refine asks_bind (spares_books (Ledger.spares_of_quiet (Ledger.asks_mayProceed p forced))) fun free => ?_
  cases free with
  | error e => trivial
  | ok free =>
    cases free with
    | true => trivial
    | false =>
      refine asks_bind (spares_books (Ledger.spares_of_quiet (Ledger.asks_remaining p))) fun left => ?_
      cases left <;> trivial

theorem spares_opening (c : Client) (forced : Bool) : (opening c forced).Asks Question.Spares := by
  refine asks_bind (spares_gate _ _) fun _ => asks_bind (spares_gate _ _) fun _ => asks_bind ?_ fun _ => trivial
  exact spares_books (Ledger.asks_extend Ledger.lasting_scheduler _)

theorem spares_login (t : Login.Talk α) : (login t).Asks Question.Spares := by
  refine asks_translate (asks_any t) fun q _ => ?_
  cases q with
  | now => exact spares_books (Ledger.spares_of_quiet Ledger.asks_now)
  | ask r => exact asks_question.mpr trivial
  | keyPair => exact asks_bind (asks_question.mpr trivial) fun _ => trivial
  | report t state => trivial
  | final state => trivial

private theorem spares_noteClock (c : Client) (server : Option Instant) :
    (noteClock c server).Asks Question.Spares := by
  cases server with
  | none => trivial
  | some now => exact asks_bind (spares_books (Ledger.spares_of_quiet (Ledger.asks_observeClock _ _))) fun _ => trivial

private theorem spares_noteBackoff (delay : Option Nat) : (noteBackoff delay).Asks Question.Spares := by
  cases delay with
  | none => trivial
  | some d =>
    refine asks_bind (spares_books (Ledger.asks_extend Ledger.lasting_tokenServer d)) fun _ => ?_
    exact asks_bind (spares_books (Ledger.asks_extend Ledger.lasting_scheduler d)) fun _ => trivial

private theorem spares_settle (c : Client) (assertion : String) (r : TokenServer.Response) :
    (settle c assertion r).Asks Question.Spares := by
  rw [settle_eq]
  refine asks_bind (spares_noteClock c _) fun _ => asks_bind (spares_noteBackoff _) fun _ => ?_
  exact spares_of_within (asks_verdict c assertion r) (by decide)

theorem spares_fetchToken (c : Client) (m : Married) : (fetchToken c m).Asks Question.Spares := by
  rw [fetchToken_eq]
  refine asks_bind (spares_books (Ledger.spares_of_quiet (Ledger.asks_adjustedNow _))) fun issuedAt => ?_
  cases m.generateAssertion c.audience issuedAt (seconds c.config.assertionDuration.toNat) with
  | error e => trivial
  | ok assertion =>
    refine asks_bind (spares_of_within (asks_diagnoseIf _ c assertion) (by decide)) fun _ => ?_
    refine asks_bind (asks_question.mpr trivial) fun answer => ?_
    cases answer with
    | error e => trivial
    | ok response => exact spares_settle c assertion response

theorem looks_of_within {d : Talk α} (hd : d.Asks (Within parts)) (hp : .ledger ∉ parts) : d.Asks Question.Looks := by
  refine hd.mono fun q hq => ?_
  cases q with
  | ledger q => exact (hp hq).elim
  | account call => trivial
  | notice event => trivial
  | work duration => trivial
  | party q => trivial

theorem looks_books {d : Ledger.Talk α} (hd : d.Asks Ledger.Question.Looks) : (books d).Asks Question.Looks :=
  asks_translate hd fun _ hq => asks_question.mpr hq

theorem looks_login (t : Login.Talk α) : (login t).Asks Question.Looks := by
  refine asks_translate (asks_any t) fun q _ => ?_
  cases q with
  | now => exact looks_books Ledger.looks_now
  | ask r => exact asks_question.mpr trivial
  | keyPair => exact asks_bind (asks_question.mpr trivial) fun _ => trivial
  | report t state => trivial
  | final state => trivial

/-- A deadline keeps an attempt waiting that is not forced: it is later than the time that was read, and what is left
of it at the time that was read next is told. -/
structure Postponed (p : Ledger.Purpose) (forced : Bool) (xs : Exchanges) (r : SyncOutcome) (s' : Ledger.State) :
    Prop where
  unforced : forced = false
  deadline : ∃ earlier checked d, readings xs = earlier ++ [checked, s'.clock] ∧
    Ledger.readDeadline (s'.text (Ledger.deadlineKey p)) = some d ∧ checked < d ∧
    r = .postponed (d.toNat - s'.clock.toNat)

theorem Postponed.prepend {xs : Exchanges} {r : SyncOutcome} (h : Postponed p forced xs r s') (ys : Exchanges) :
    Postponed p forced (ys ++ xs) r s' := by
  obtain ⟨earlier, checked, d, hread, hd⟩ := h.deadline
  refine ⟨h.unforced, readings ys ++ earlier, checked, d, ?_, hd⟩
  rw [readings_append, hread, List.append_assoc]

theorem gated_of_reads (hw : s.Working) {a : Option SyncOutcome} (h : Runs Reads s (gate p forced) ms a s') :
    s'.store = s.store ∧ match a with
      | none => forced = false →
        ∀ d, Ledger.readDeadline (s.text (Ledger.deadlineKey p)) = some d → d ≤ s'.clock
      | some r => Postponed p forced (exchangesOf ms) r s' := by
  obtain ⟨xs, free, t, rest, hmay, hrest, rfl⟩ := runs_bind_iff.mp h
  obtain ⟨ns, rfl, hfree⟩ := reads_books hmay
  cases forced with
  | true =>
    obtain ⟨rfl, rfl, rfl⟩ := runs_pure_iff.mp hfree
    obtain ⟨rfl, rfl, rfl⟩ := runs_pure_iff.mp hrest
    exact ⟨rfl, nofun⟩
  | false =>
    -- The clock is read to see whether to wait, and read again to tell how long.
    obtain ⟨us, left, u, vs, hleft, hpure, rfl⟩ := runs_bind_iff.mp hfree
    obtain ⟨rfl, rfl, rfl⟩ := runs_pure_iff.mp hpure
    obtain ⟨hread, hstore, rfl⟩ := Ledger.reads_remaining hw hleft
    have htext : t.text (Ledger.deadlineKey p) = s.text (Ledger.deadlineKey p) := Ledger.text_of_store hstore _
    by_cases hzero : Ledger.timeLeft t.clock (Ledger.readDeadline (s.text (Ledger.deadlineKey p))) = 0
    · rw [Except.map, decide_eq_true hzero] at hrest
      obtain ⟨rfl, rfl, rfl⟩ := runs_pure_iff.mp hrest
      refine ⟨hstore, ?_⟩
      intro _ d hd
      rw [hd] at hzero
      have hle : d.toNat - s'.clock.toNat = 0 := hzero
      rw [UInt64.le_iff_toNat_le]
      omega
    · rw [Except.map, decide_eq_false hzero] at hrest
      obtain ⟨ys, again, v, zs, hagain, hpure, rfl⟩ := runs_bind_iff.mp hrest
      obtain ⟨ks, rfl, hks⟩ := reads_books hagain
      have hworking := (Ledger.sameRecords_of_store hstore).working hw
      obtain ⟨hread', hstore', rfl⟩ := Ledger.reads_remaining hworking hks
      obtain ⟨rfl, rfl, rfl⟩ := runs_pure_iff.mp hpure
      have htext' : s'.text (Ledger.deadlineKey p) = s.text (Ledger.deadlineKey p) :=
        Ledger.text_of_store (hstore'.trans hstore) _
      refine ⟨hstore'.trans hstore, rfl, ?_⟩
      rw [htext']
      cases hd : Ledger.readDeadline (s.text (Ledger.deadlineKey p)) with
      | none =>
        rw [hd] at hzero
        exact (hzero rfl).elim
      | some d =>
        rw [hd] at hzero
        have hlater : ¬ d.toNat - t.clock.toNat = 0 := hzero
        refine ⟨[], t.clock, d, ?_, rfl, ?_, ?_⟩
        · rw [exchangesOf_append, exchangesOf_append, readings_append, readings_append, readings_ofLedger,
            readings_ofLedger, Ledger.readings_append, hread, hread']
          rfl
        · rw [UInt64.lt_iff_toNat_lt]
          omega
        · rw [htext, hd]
          rfl

end AccountSync.Attempt
