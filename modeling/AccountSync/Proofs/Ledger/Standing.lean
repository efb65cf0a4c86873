import AccountSync.Proofs.Ledger.Records

/-!
Deadlines that still stand, at any times and over a store that may fail. Every operation of the ledger leaves each
deadline on record, and none earlier (`Upholds`), but for a switch of storage hosts, which may drop the deadline of the
host before and no other (`stands_or_switched`).
-/

set_option autoImplicit false
set_option relaxedAutoImplicit false

namespace AccountSync.Ledger

open Dialogue

def State.deadline? (s : State) (p : Purpose) : Option Instant := readDeadline (s.text (deadlineKey p))

/-- A deadline that is on record still is, and is no earlier. -/
def Stands (p : Purpose) (s s' : State) : Prop :=
  ∀ d, s.deadline? p = some d → ∃ d', s'.deadline? p = some d' ∧ d ≤ d'

structure Upheld (s s' : State) : Prop where
  lastHost : s'.text lastHostKey = s.text lastHostKey
  stands : ∀ p, Stands p s s'

variable {α β : Type} {s s' t u : State} {ms : Moments} {p : Purpose} {host key value : String}

theorem stands_of_text (h : s'.text (deadlineKey p) = s.text (deadlineKey p)) : Stands p s s' := by
  intro d hd
  refine ⟨d, ?_, UInt64.le_refl d⟩
  unfold State.deadline?
  rw [h]
  exact hd

theorem Stands.trans (hst : Stands p s t) (htu : Stands p t u) : Stands p s u := by
  intro d hd
  obtain ⟨d', hd', hle⟩ := hst d hd
  obtain ⟨d'', hd'', hle'⟩ := htu d' hd'
  exact ⟨d'', hd'', UInt64.le_trans hle hle'⟩

theorem Upheld.refl (s : State) : Upheld s s := ⟨rfl, fun _ => stands_of_text rfl⟩

theorem Upheld.trans (s t u : State) (hst : Upheld s t) (htu : Upheld t u) : Upheld s u :=
  ⟨htu.lastHost.trans hst.lastHost, fun p => (hst.stands p).trans (htu.stands p)⟩

private theorem upheld_of_store (h : s'.store = s.store) : Upheld s s' :=
  ⟨text_of_store h _, fun _ => stands_of_text (text_of_store h _)⟩

/-- Whatever is on record and whatever fails, an operation takes no deadline back. -/
abbrev Upholds (d : Talk α) : Prop := Leads Reads Upheld d

theorem upholds_pure (a : α) : Upholds (pure a : Talk α) := leads_pure Upheld.refl a

theorem upholds_bind {d : Talk α} {f : α → Talk β} (hd : Upholds d) (hf : ∀ a, Upholds (f a)) : Upholds (d >>= f) :=
  leads_bind Upheld.trans hd hf

theorem text_of_asks {d : Talk α} {a : α} (h : Runs Reads s d ms a s') (hd : d.Asks fun q => ¬ q.Writes key) :
    s'.text key = s.text key := by
  have htrans : ∀ s t u : State, t.text key = s.text key → u.text key = t.text key → u.text key = s.text key :=
    fun _ _ _ hst htu => htu.trans hst
  refine h.2.keeps (R := fun s s' => s'.text key = s.text key) (fun _ => rfl) htrans ?_
  intro t m hm hr
  exact hr.text_eq (hd.of_course h.1 m.exchange (List.mem_map_of_mem hm))

theorem upholds_of_quiet {d : Talk α} (hd : d.Asks Question.Quiet) : Upholds d := by
  intro s ms a s' h
  have htext : ∀ k, s'.text k = s.text k := fun k => text_of_asks h (hd.mono fun _ hq => hq k)
  exact ⟨htext _, fun p => stands_of_text (htext _)⟩

theorem ok_or_error_of_get {a : Except SyncError (Option String)} (h : Runs Reads s (get key) ms a s') :
    s' = s ∧ (a = .ok (s.text key) ∨ ∃ e, a = .error e) := by
  obtain ⟨rfl, now, hnow, he⟩ := runs_question_iff.mp h
  obtain rfl := hnow nofun
  cases hf : s.store.fault? (.get key) with
  | none =>
    simp only [State.answer, Store.Memory.answer, hf] at he
    cases he
    exact ⟨rfl, .inl rfl⟩
  | some e =>
    simp only [State.answer, Store.Memory.answer, hf] at he
    cases he
    exact ⟨rfl, .inr ⟨e, rfl⟩⟩

private theorem store_of_set {a : Except SyncError Unit} (h : Runs Reads s (set key value) ms a s') :
    s'.store = s.store ∨ s'.store = s.put key value := by
  obtain ⟨_, hr⟩ := runs_question_iff.mp h
  rcases hr.store_cases with hs | ⟨key', value', hq, hs⟩ | ⟨key', hq, _⟩
  · exact .inl hs
  · cases hq
    exact .inr hs
  · cases hq

private theorem upheld_of_put {d : Instant} (hput : s'.store = s.put (deadlineKey p) (toString d.toNat))
    (hd : ∀ d', s.deadline? p = some d' → d' ≤ d) : Upheld s s' := by
  refine ⟨?_, ?_⟩
  · rw [text_of_put hput, if_neg (lastHostKey_ne_deadlineKey p)]
  intro q d' hq
  by_cases hpq : deadlineKey q = deadlineKey p
  · obtain rfl := deadlineKey_injective hpq
    refine ⟨d, ?_, hd d' hq⟩
    unfold State.deadline?
    rw [text_of_put hput, if_pos rfl]
    exact readDeadline_toString d
  · refine stands_of_text ?_ d' hq
    rw [text_of_put hput, if_neg hpq]

theorem upholds_extend (p : Purpose) (delay : Nat) : Upholds (extend p delay) := by
  refine upholds_bind (upholds_of_quiet asks_now) fun now => ?_
  intro s ms a s' h
  obtain ⟨xs, stored, t, rest, hstored, hrest, rfl⟩ := runs_bind_iff.mp h
  obtain ⟨ys, text, u, zs, hget, hpure, rfl⟩ := runs_bind_iff.mp hstored
  obtain ⟨rfl, rfl, rfl⟩ := runs_pure_iff.mp hpure
  obtain ⟨rfl, rfl | ⟨e, rfl⟩⟩ := ok_or_error_of_get hget
  · change Runs Reads t (if after now delay ≤ (t.deadline? p).getD 0 then _ else _) _ _ _ at hrest
    split at hrest
    · obtain ⟨rfl, rfl, rfl⟩ := runs_pure_iff.mp hrest
      exact .refl _
    · rename_i hlater
      obtain ⟨us, kept, v, vs, hset, hdone, rfl⟩ := runs_bind_iff.mp hrest
      have hv : v = s' := by
        cases kept <;> exact (runs_pure_iff.mp hdone).2.2.symm
      subst hv
      -- The deadline on record is the one that was read, so what is written is later.
      have hle : ∀ d, t.deadline? p = some d → d ≤ after now delay := by
        intro d hd
        rw [hd] at hlater
        exact UInt64.le_of_lt (UInt64.not_le.mp hlater)
      rcases store_of_set hset with hstore | hput
      · exact upheld_of_store hstore
      · exact upheld_of_put hput hle
  · obtain ⟨rfl, rfl, rfl⟩ := runs_pure_iff.mp hrest
    exact .refl _

theorem upholds_observeClock (host : String) (server : Instant) : Upholds (observeClock host server) :=
  upholds_of_quiet (asks_observeClock host server)

theorem not_writes_setLastHost (p : Purpose) (host : String) :
    (setLastHost host).Asks fun q => ¬ q.Writes (deadlineKey p) := by
  refine asks_question.mpr ?_
  rintro (⟨value, h⟩ | h)
  · injection h with h
    injection h with h
    exact lastHostKey_ne_deadlineKey p h
  · cases h

private theorem not_writes_clear {q : Purpose} (h : p ≠ q) : (clear q).Asks fun x => ¬ x.Writes (deadlineKey p) := by
  refine asks_question.mpr ?_
  rintro (⟨value, hq⟩ | hq)
  · cases hq
  · injection hq with hq
    injection hq with hq
    exact h (deadlineKey_injective hq).symm

/-- After a switch of storage hosts a deadline still stands, if it is not the one of the host before. -/
theorem stands_or_switched {a : Except SyncError Bool} (h : Runs Reads s (switchHost host) ms a s') (p : Purpose) :
    Stands p s s' ∨
      ∃ previous, s.text lastHostKey = some previous ∧ sameHost previous host = false ∧ p = .storage previous := by
  obtain ⟨xs, last, t, rest, hlast, hrest, rfl⟩ := runs_bind_iff.mp h
  obtain ⟨rfl, rfl | ⟨e, rfl⟩⟩ := ok_or_error_of_get hlast
  · cases hprevious : t.text lastHostKey with
    | none =>
      rw [hprevious] at hrest
      refine .inl (stands_of_text (text_of_asks hrest ?_))
      exact asks_bind (not_writes_setLastHost p host) fun _ => trivial
    | some previous =>
      rw [hprevious] at hrest
      dsimp only at hrest
      cases hsame : sameHost previous host with
      | true =>
        rw [hsame, if_pos rfl] at hrest
        obtain ⟨rfl, rfl, rfl⟩ := runs_pure_iff.mp hrest
        exact .inl (stands_of_text rfl)
      | false =>
        rw [hsame, if_neg Bool.false_ne_true] at hrest
        by_cases hp : p = .storage previous
        · exact .inr ⟨previous, rfl, hsame, hp⟩
        · refine .inl (stands_of_text (text_of_asks hrest ?_))
          refine asks_bind (not_writes_clear hp) fun cleared => ?_
          cases cleared with
          | error e => trivial
          | ok _ => exact asks_bind (not_writes_setLastHost p host) fun _ => trivial
  · obtain ⟨rfl, rfl, rfl⟩ := runs_pure_iff.mp hrest
    exact .inl (stands_of_text rfl)

end AccountSync.Ledger
