import AccountSync.Proofs.Dialogue.Course

/-!
Runs of dialogues in surroundings that move from state to state, and may do so in more than one way. What
is kept of a run are its moments: each exchange with the state that it left. Runs compose as courses do
(`runs_bind_iff`, `runs_translate`), and surroundings that answer by a function run in one way
(`runs_record`).
-/

set_option autoImplicit false
set_option relaxedAutoImplicit false

namespace AccountSync.Dialogue

variable {Q Q' : Type} {A : Q → Type} {A' : Q' → Type} {α β σ : Type}

/-- An exchange, and the state of the surroundings right after it. -/
structure Moment (A : Q → Type) (σ : Type) where
  exchange : Exchange A
  after : σ

def exchangesOf (ms : List (Moment A σ)) : List (Exchange A) := ms.map Moment.exchange

@[simp] theorem exchangesOf_nil : exchangesOf ([] : List (Moment A σ)) = [] := rfl

@[simp] theorem exchangesOf_cons (m : Moment A σ) (ms : List (Moment A σ)) :
    exchangesOf (m :: ms) = m.exchange :: exchangesOf ms := rfl

@[simp] theorem exchangesOf_append (ms ns : List (Moment A σ)) :
    exchangesOf (ms ++ ns) = exchangesOf ms ++ exchangesOf ns :=
  List.map_append

/-- Moments that lead from one state to another, each by a move of the surroundings. -/
inductive Follows (move : σ → Exchange A → σ → Prop) : σ → List (Moment A σ) → σ → Prop
  | nil (s : σ) : Follows move s [] s
  | cons {s s' : σ} {m : Moment A σ} {ms : List (Moment A σ)} :
      move s m.exchange m.after → Follows move m.after ms s' → Follows move s (m :: ms) s'

variable {move : σ → Exchange A → σ → Prop} {s s' : σ}

private theorem follows_nil_iff : Follows move s [] s' ↔ s' = s := by
  constructor
  · intro h
    cases h
    rfl
  · rintro rfl
    exact .nil s'

theorem follows_cons_iff {m : Moment A σ} {ms : List (Moment A σ)} :
    Follows move s (m :: ms) s' ↔ move s m.exchange m.after ∧ Follows move m.after ms s' := by
  constructor
  · intro h
    cases h with
    | cons hm hf => exact ⟨hm, hf⟩
  · rintro ⟨hm, hf⟩
    exact .cons hm hf

theorem follows_append_iff {ms ns : List (Moment A σ)} :
    Follows move s (ms ++ ns) s' ↔ ∃ t, Follows move s ms t ∧ Follows move t ns s' := by
  induction ms generalizing s with
  | nil => simp [follows_nil_iff]
  | cons m ms ih =>
    rw [List.cons_append, follows_cons_iff, ih]
    simp only [follows_cons_iff, and_assoc, exists_and_left]

/-- A relation that every move keeps holds from one end of a list of moments to the other. -/
theorem Follows.keeps {R : σ → σ → Prop} (refl : ∀ s, R s s) (trans : ∀ s t u, R s t → R t u → R s u)
    {ms : List (Moment A σ)} (h : Follows move s ms s')
    (step : ∀ t, ∀ m ∈ ms, move t m.exchange m.after → R t m.after) : R s s' := by
  induction h with
  | nil s => exact refl s
  | @cons s s' m ms hm _ ih =>
    exact trans _ _ _ (step s m List.mem_cons_self hm)
      (ih fun t n hn => step t n (List.mem_cons_of_mem m hn))

/-- The moments of a dialogue that runs from one state to another, and what it comes to. -/
def Runs (move : σ → Exchange A → σ → Prop) (s : σ) (d : Dialogue Q A α) (ms : List (Moment A σ)) (r : α)
    (s' : σ) : Prop :=
  Course d (exchangesOf ms) r ∧ Follows move s ms s'

theorem runs_pure_iff {a r : α} {ms : List (Moment A σ)} :
    Runs move s (pure a) ms r s' ↔ ms = [] ∧ r = a ∧ s' = s := by
  unfold Runs
  rw [course_pure_iff, exchangesOf, List.map_eq_nil_iff, and_assoc]
  constructor
  · rintro ⟨rfl, rfl, h⟩
    exact ⟨rfl, rfl, follows_nil_iff.mp h⟩
  · rintro ⟨rfl, rfl, h⟩
    exact ⟨rfl, rfl, follows_nil_iff.mpr h⟩

theorem runs_question_iff {q : Q} {ms : List (Moment A σ)} {r : A q} :
    Runs move s (question q) ms r s' ↔ ms = [⟨⟨q, r⟩, s'⟩] ∧ move s ⟨q, r⟩ s' := by
  unfold Runs
  rw [course_question_iff]
  constructor
  · rintro ⟨hx, hf⟩
    obtain ⟨m, rfl, hm⟩ := List.map_eq_singleton_iff.mp hx
    obtain ⟨hmove, hnil⟩ := follows_cons_iff.mp hf
    obtain rfl := follows_nil_iff.mp hnil
    rw [hm] at hmove
    refine ⟨?_, hmove⟩
    rw [← hm]
  · rintro ⟨rfl, hm⟩
    exact ⟨rfl, .cons hm (.nil s')⟩

theorem runs_bind_iff {d : Dialogue Q A α} {f : α → Dialogue Q A β} {ms : List (Moment A σ)} {r : β} :
    Runs move s (d >>= f) ms r s' ↔
      ∃ xs a t ys, Runs move s d xs a t ∧ Runs move t (f a) ys r s' ∧ ms = xs ++ ys := by
  constructor
  · rintro ⟨hc, hf⟩
    obtain ⟨ys, a, zs, hd, hn, he⟩ := course_bind_iff.mp hc
    obtain ⟨xs, rest, rfl, rfl, rfl⟩ := List.map_eq_append_iff.mp he
    obtain ⟨t, hx, hr⟩ := follows_append_iff.mp hf
    exact ⟨xs, a, t, rest, ⟨hd, hx⟩, ⟨hn, hr⟩, rfl⟩
  · rintro ⟨xs, a, t, ys, ⟨hd, hx⟩, ⟨hn, hy⟩, rfl⟩
    refine ⟨?_, follows_append_iff.mpr ⟨t, hx, hy⟩⟩
    rw [exchangesOf_append]
    exact course_bind_iff.mpr ⟨_, a, _, hd, hn, rfl⟩

/-- However it runs, a dialogue leads from a state to a related one. -/
def Leads (move : σ → Exchange A → σ → Prop) (R : σ → σ → Prop) (d : Dialogue Q A α) : Prop :=
  ∀ s ms a s', Runs move s d ms a s' → R s s'

section Leads

variable {R : σ → σ → Prop}

theorem leads_pure (refl : ∀ s, R s s) (a : α) : Leads move R (pure a : Dialogue Q A α) := by
  intro s ms r s' h
  obtain ⟨_, _, rfl⟩ := runs_pure_iff.mp h
  exact refl _

theorem leads_bind (trans : ∀ s t u, R s t → R t u → R s u) {d : Dialogue Q A α} {f : α → Dialogue Q A β}
    (hd : Leads move R d) (hf : ∀ a, Leads move R (f a)) : Leads move R (d >>= f) := by
  intro s ms r s' h
  obtain ⟨xs, a, t, ys, hx, hy, rfl⟩ := runs_bind_iff.mp h
  exact trans _ _ _ (hd _ _ _ _ hx) (hf a _ _ _ _ hy)

theorem leads_translate (refl : ∀ s, R s s) (trans : ∀ s t u, R s t → R t u → R s u)
    {f : (q : Q) → Dialogue Q' A' (A q)} {move : σ → Exchange A' → σ → Prop} (hf : ∀ q, Leads move R (f q))
    (d : Dialogue Q A α) : Leads move R (d.translate f) := by
  induction d with
  | done a => exact leads_pure refl a
  | ask q next ih => exact leads_bind trans (hf q) ih

end Leads

/-- Moments in other surroundings, of which each part settles one question. -/
inductive Rendered (move : σ → Exchange A' → σ → Prop) (f : (q : Q) → Dialogue Q' A' (A q)) :
    σ → List (Exchange A) → List (Moment A' σ) → σ → Prop
  | nil (s : σ) : Rendered move f s [] [] s
  | cons {s t u : σ} {q : Q} {a : A q} {part : List (Moment A' σ)} {xs : List (Exchange A)}
      {ms : List (Moment A' σ)} :
      Runs move s (f q) part a t → Rendered move f t xs ms u →
        Rendered move f s (⟨q, a⟩ :: xs) (part ++ ms) u

theorem runs_translate {f : (q : Q) → Dialogue Q' A' (A q)} {d : Dialogue Q A α}
    {move' : σ → Exchange A' → σ → Prop} {ms : List (Moment A' σ)} {r : α}
    (h : Runs move' s (d.translate f) ms r s') :
    ∃ xs, Course d xs r ∧ Rendered move' f s xs ms s' := by
  induction d generalizing s ms with
  | done a =>
    obtain ⟨rfl, rfl, rfl⟩ := runs_pure_iff.mp h
    exact ⟨[], .done r, .nil _⟩
  | ask q next ih =>
    obtain ⟨part, a, t, rest, hq, hn, rfl⟩ := runs_bind_iff.mp h
    obtain ⟨xs, hd, hr⟩ := ih a hn
    exact ⟨⟨q, a⟩ :: xs, .ask q next a xs r hd, .cons hq hr⟩

theorem Rendered.asks {P : Q' → Prop} {f : (q : Q) → Dialogue Q' A' (A q)}
    {move' : σ → Exchange A' → σ → Prop} {xs : List (Exchange A)} {ms : List (Moment A' σ)}
    (h : Rendered move' f s xs ms s') (hf : ∀ x ∈ xs, (f x.question).Asks P) :
    ∀ m ∈ ms, P m.exchange.question := by
  induction h with
  | nil s => simp
  | @cons s t u q a part xs ms hpart _ ih =>
    intro m hm
    rcases List.mem_append.mp hm with hm | hm
    · have hq := hf ⟨q, a⟩ List.mem_cons_self
      exact hq.of_course hpart.1 m.exchange (List.mem_map_of_mem hm)
    · exact ih (fun x hx => hf x (List.mem_cons_of_mem _ hx)) m hm

def record (answer : (q : Q) → σ → A q × σ) : Dialogue Q A α → σ → List (Moment A σ)
  | .done _, _ => []
  | .ask q next, s => ⟨⟨q, (answer q s).1⟩, (answer q s).2⟩ :: (next (answer q s).1).record answer (answer q s).2

theorem runs_record {answer : (q : Q) → σ → A q × σ} (h : ∀ q s, move s ⟨q, (answer q s).1⟩ (answer q s).2)
    (d : Dialogue Q A α) (s : σ) :
    Runs move s d (d.record answer s) (d.run answer s).1 (d.run answer s).2 := by
  induction d generalizing s with
  | done a => exact ⟨.done a, .nil s⟩
  | ask q next ih =>
    obtain ⟨hc, hf⟩ := ih (answer q s).1 (answer q s).2
    exact ⟨.ask q next _ _ _ hc, .cons (h q s) hf⟩

theorem exchangesOf_record (answer : (q : Q) → σ → A q × σ) (d : Dialogue Q A α) (s : σ) :
    exchangesOf (d.record answer s) = d.exchanges answer s := by
  induction d generalizing s with
  | done a => rfl
  | ask q next ih => exact congrArg _ (ih _ _)

theorem answer_of_record {answer : (q : Q) → σ → A q × σ} {d : Dialogue Q A α} {m : Moment A σ}
    (h : m ∈ d.record answer s) : ∃ t, m.exchange.answer = (answer m.exchange.question t).1 := by
  induction d generalizing s with
  | done a => cases h
  | ask q next ih =>
    rcases List.mem_cons.mp h with rfl | h
    · exact ⟨s, rfl⟩
    · exact ih _ h

theorem answer_of_exchanges {answer : (q : Q) → σ → A q × σ} {d : Dialogue Q A α} {x : Exchange A}
    (h : x ∈ d.exchanges answer s) : ∃ t, x.answer = (answer x.question t).1 := by
  rw [← exchangesOf_record] at h
  obtain ⟨m, hm, rfl⟩ := List.mem_map.mp h
  exact answer_of_record hm

theorem Runs.eq_run {answer : (q : Q) → σ → A q × σ} {d : Dialogue Q A α} {ms : List (Moment A σ)} {r : α}
    (h : Runs move s d ms r s')
    (hsure : ∀ m ∈ ms, ∀ t, move t m.exchange m.after →
      m.exchange.answer = (answer m.exchange.question t).1 ∧ m.after = (answer m.exchange.question t).2) :
    d.run answer s = (r, s') := by
  induction d generalizing s ms with
  | done a =>
    obtain ⟨-, rfl, rfl⟩ := runs_pure_iff.mp h
    rfl
  | ask q next ih =>
    obtain ⟨part, a, t, rest, hq, hn, rfl⟩ := runs_bind_iff.mp (show Runs move s (question q >>= next) ms r s' from h)
    obtain ⟨rfl, hmove⟩ := runs_question_iff.mp hq
    obtain ⟨ha, ht⟩ : a = (answer q s).1 ∧ t = (answer q s).2 :=
      hsure _ (List.mem_append_left _ (List.mem_singleton_self _)) s hmove
    subst ha ht
    exact ih _ hn fun m hm => hsure m (List.mem_append_right _ hm)

end AccountSync.Dialogue
