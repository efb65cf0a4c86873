import AccountSync.Proofs.Attempt.Parts
import AccountSync.Proofs.Attempt.Stages

/-!
Histories of attempts, each begun in the surroundings that the one before left. What holds of every attempt
from its own first state holds of a history by `History.invariant` and `History.pairwise`.
-/

set_option autoImplicit false
set_option relaxedAutoImplicit false

namespace AccountSync.Attempt

open Dialogue

variable {σ : Type}

/-- An attempt that was made: what it was made with, its moments, and what it came to. -/
structure Made (σ : Type) where
  extras : SyncExtras
  moments : Moments σ
  outcome : SyncOutcome

/-- Attempts of one client that follow each other. -/
inductive History (move : σ → Exchange Question.Answer → σ → Prop) (c : Client) : σ → List (Made σ) → σ → Prop
  | nil (s : σ) : History move c s [] s
  | cons {s t s' : σ} {m : Made σ} {ms : List (Made σ)} :
      Runs move s (run c m.extras) m.moments m.outcome t → History move c t ms s' →
      History move c s (m :: ms) s'

/-- The attempt came past both deadlines: somebody other than the ledger was asked. -/
def Passed (ms : Moments σ) : Prop := ∃ m ∈ ms, m.exchange.question.part ≠ .ledger

instance (ms : Moments σ) : Decidable (Passed ms) :=
  inferInstanceAs (Decidable (∃ m ∈ ms, m.exchange.question.part ≠ .ledger))

variable {move : σ → Exchange Question.Answer → σ → Prop} {c : Client} {s s' : σ} {made : List (Made σ)}

theorem History.invariant {I : σ → Prop} {P : Made σ → Prop}
    (step : ∀ s m t, I s → Runs move s (run c m.extras) m.moments m.outcome t → I t ∧ P m)
    (h : History move c s made s') (hi : I s) : I s' ∧ ∀ m ∈ made, P m := by
  induction h with
  | nil s => exact ⟨hi, by simp⟩
  | cons hr _ ih =>
    obtain ⟨ht, hp⟩ := step _ _ _ hi hr
    obtain ⟨hs', hrest⟩ := ih ht
    refine ⟨hs', ?_⟩
    intro m hm
    rcases List.mem_cons.mp hm with rfl | hm
    · exact hp
    · exact hrest m hm

/-- What an attempt leaves behind, if none takes it away, is met by every later attempt. -/
theorem History.pairwise {I : σ → Prop} {D : Made σ → σ → Prop} {P : Made σ → Made σ → Prop}
    (step : ∀ s m t, I s → Runs move s (run c m.extras) m.moments m.outcome t →
      I t ∧ D m t ∧ ∀ e, D e s → D e t ∧ P e m)
    (h : History move c s made s') (hi : I s) : made.Pairwise P := by
  -- What was left before the history is met by all of it, so each step can hand on what it leaves.
  have both : (∀ e, D e s → ∀ m ∈ made, P e m) ∧ made.Pairwise P := by
    induction h with
    | nil s => exact ⟨by simp, .nil⟩
    | cons hr _ ih =>
      obtain ⟨ht, hleft, hkept⟩ := step _ _ _ hi hr
      obtain ⟨hmet, hpair⟩ := ih ht
      refine ⟨?_, List.pairwise_cons.mpr ⟨hmet _ hleft, hpair⟩⟩
      intro e he m hm
      rcases List.mem_cons.mp hm with rfl | hm
      · exact (hkept e he).2
      · exact hmet e (hkept e he).1 m hm
  exact both.2

def Confined (parts : List Part) (ms : Moments σ) : Prop := ∀ m ∈ ms, Within parts m.exchange.question

variable {parts others : List Part} {ms ns : Moments σ}

theorem confined_append : Confined parts (ms ++ ns) ↔ Confined parts ms ∧ Confined parts ns :=
  List.forall_mem_append

theorem Confined.mono (h : Confined parts ms) (hp : parts ⊆ others) : Confined others ms :=
  fun m hm => hp (h m hm)

theorem confined_of_runs {α : Type} {d : Talk α} {r : α} (hd : d.Asks (Within parts))
    (h : Runs move s d ms r s') : Confined parts ms := by
  intro m hm
  exact hd.of_course h.1 m.exchange (List.mem_map_of_mem hm)

theorem within_of_runs {α : Type} {d : Talk α} {r : α} (h : Runs move s d ms r s') (hd : d.Asks (Within parts)) :
    ∀ x ∈ exchangesOf ms, Within parts x.question :=
  hd.of_course h.1

theorem untold_of_within {β : Type} {f : Exchange Question.Answer → Option β} {p : Part} {xs : Exchanges}
    (hf : ∀ {x b}, f x = some b → x.question.part = p) (h : ∀ x ∈ xs, Within parts x.question) (hp : p ∉ parts) :
    xs.filterMap f = [] := by
  refine List.filterMap_eq_nil_iff.mpr fun x hx => Option.eq_none_iff_forall_ne_some.mpr fun b hb => hp ?_
  rw [← hf hb]
  exact h x hx

private theorem Confined.not_passed (h : Confined [.ledger] ms) : ¬ Passed ms := by
  rintro ⟨m, hm, hne⟩
  exact hne (List.mem_singleton.mp (h m hm))

theorem proceeds_of_passed {extras : SyncExtras} {r : SyncOutcome} (h : Runs move s (run c extras) ms r s')
    (hp : Passed ms) : ∃ xs t ys u zs, Runs move s (gate .scheduler extras.forced) xs none t ∧
      Runs move t (gate .tokenServer extras.forced) ys none u ∧ Runs move u (proceed c extras.forced) zs r s' ∧
      ms = xs ++ (ys ++ zs) := by
  cases attempting_of_runs h with
  | early hfirst => exact ((confined_of_runs (asks_gate _ _) hfirst).not_passed hp).elim
  | deferred hfirst hsecond =>
    have hledger := confined_append.mpr
      ⟨confined_of_runs (asks_gate _ _) hfirst, confined_of_runs (asks_gate _ _) hsecond⟩
    exact (hledger.not_passed hp).elim
  | proceeds hfirst hsecond hproceed => exact ⟨_, _, _, _, _, hfirst, hsecond, hproceed, rfl⟩

def ofLedger (m : Moment Ledger.Question.Answer σ) : Moment Question.Answer σ :=
  ⟨⟨.ledger m.exchange.question, m.exchange.answer⟩, m.after⟩

/-- A part of an attempt that is the ledger's runs as the ledger does. -/
theorem ledger_of_runs {α : Type} {d : Ledger.Talk α} {r : α} {move' : σ → Exchange Ledger.Question.Answer → σ → Prop}
    (hm : ∀ s q a t, move s ⟨.ledger q, a⟩ t → move' s ⟨q, a⟩ t) (h : Runs move s (books d) ms r s') :
    ∃ ns, ms = ns.map ofLedger ∧ Runs move' s d ns r s' := by
  induction d generalizing s ms with
  | done a =>
    obtain ⟨rfl, rfl, rfl⟩ := runs_pure_iff.mp h
    exact ⟨[], rfl, runs_pure_iff.mpr ⟨rfl, rfl, rfl⟩⟩
  | ask q next ih =>
    obtain ⟨xs, a, t, ys, hq, hn, rfl⟩ := runs_bind_iff.mp h
    obtain ⟨rfl, hmove⟩ := runs_question_iff.mp hq
    obtain ⟨ns, rfl, hc, hf⟩ := ih a hn
    exact ⟨⟨⟨q, a⟩, t⟩ :: ns, rfl, .ask q next a _ r hc, .cons (hm _ _ _ _ hmove) hf⟩

theorem runs_of_course {α : Type} {d : Talk α} {xs : Exchanges} {a : α} (h : Course d xs a) :
    ∃ ms : Moments Unit, exchangesOf ms = xs ∧ Runs (fun _ _ _ => True) () d ms a () := by
  have hx : ∀ ys : Exchanges, exchangesOf (ys.map fun y => (⟨y, ()⟩ : Moment Question.Answer Unit)) = ys := by
    intro ys
    rw [exchangesOf, List.map_map]
    exact List.map_id ys
  have hf : ∀ ys : Exchanges, Follows (fun _ _ _ => True) ()
      (ys.map fun y => (⟨y, ()⟩ : Moment Question.Answer Unit)) () := by
    intro ys
    induction ys with
    | nil => exact .nil ()
    | cons y ys ih => exact .cons trivial ih
  refine ⟨_, hx xs, ?_, hf xs⟩
  rwa [hx]

def reading? : Exchange Question.Answer → Option Instant
  | ⟨.ledger .now, now⟩ => some now
  | _ => none

/-- The time that the clock showed when it was last read. -/
def lastReading (xs : Exchanges) : Option Instant := (xs.filterMap reading?).getLast?

/-- What parties answer who have nothing to say. -/
def silence : (q : Question) → q.Answer
  | .ledger .now => (0 : Instant)
  | .ledger (.store (.get _)) => .ok none
  | .ledger (.store (.set ..)) => .ok ()
  | .ledger (.store (.remove _)) => .ok ()
  | .ledger (.skew _) => (0 : Int)
  | .ledger (.recordSkew ..) => ()
  | .account .load => .ok none
  | .account (.save _) => .ok ()
  | .notice _ => ()
  | .work _ => ()
  | .party (.provider _) => .error .authRequired
  | .party (.exchange ..) => .error .authRequired
  | .party (.verify ..) => .error .authRequired
  | .party .keyPair => (default : KeyPair)
  | .party (.interval _) => ()
  | .party (.startEngine _) => (.done (.success 0) : Storage.Plan)
  | .party (.tell ..) => ()

theorem exists_course {α : Type} (d : Talk α) : ∃ xs r, Course d xs r :=
  ⟨_, _, course_run (fun q s => (silence q, s)) d ()⟩

/-- The attempt that is made in surroundings that answer from their state. -/
def attemptIn (answer : (q : Question) → σ → q.Answer × σ) (c : Client) (extras : SyncExtras) (s : σ) : Made σ :=
  ⟨extras, (run c extras).record answer s, ((run c extras).run answer s).1⟩

def attemptsIn (answer : (q : Question) → σ → q.Answer × σ) (c : Client) : List SyncExtras → σ → List (Made σ)
  | [], _ => []
  | extras :: rest, s => attemptIn answer c extras s :: attemptsIn answer c rest ((run c extras).run answer s).2

def leftIn (answer : (q : Question) → σ → q.Answer × σ) (c : Client) (plan : List SyncExtras) (s : σ) : σ :=
  plan.foldl (fun s extras => ((run c extras).run answer s).2) s

theorem history_attemptsIn {answer : (q : Question) → σ → q.Answer × σ}
    (h : ∀ q s, move s ⟨q, (answer q s).1⟩ (answer q s).2) (c : Client) (plan : List SyncExtras) (s : σ) :
    History move c s (attemptsIn answer c plan s) (leftIn answer c plan s) := by
  induction plan generalizing s with
  | nil => exact .nil s
  | cons extras rest ih => exact .cons (runs_record h _ s) (ih _)

end AccountSync.Attempt
