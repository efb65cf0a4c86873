import AccountSync.Proofs.Dialogue.Course

/-!
Dialogues that are the same up to questions of a kind: either may ask these where the other does not, and goes the same
way whatever it is answered (`Upto`). Main statements: `Upto.run_alike` and `Upto.exchanges_alike`, that in surroundings
which answer alike but for that kind two such dialogues come to the same, and ask and hear the same but for that kind.
-/

set_option autoImplicit false
set_option relaxedAutoImplicit false

namespace AccountSync.Dialogue

variable {Q : Type} {A : Q → Type} {α β σ σ' : Type} {P : Q → Prop}

/-- Two dialogues ask the same and come to the same, but for questions of a kind. -/
inductive Upto (P : Q → Prop) : Dialogue Q A α → Dialogue Q A α → Prop
  | done (a : α) : Upto P (.done a) (.done a)
  | ask {q : Q} {next next' : A q → Dialogue Q A α} : ¬ P q → (∀ a, Upto P (next a) (next' a)) →
      Upto P (.ask q next) (.ask q next')
  | left {q : Q} {next : A q → Dialogue Q A α} {d : Dialogue Q A α} : P q → (∀ a, Upto P (next a) d) →
      Upto P (.ask q next) d
  | right {q : Q} {next : A q → Dialogue Q A α} {d : Dialogue Q A α} : P q → (∀ a, Upto P d (next a)) →
      Upto P d (.ask q next)

theorem upto_of_unasked {d : Dialogue Q A α} (hd : d.Asks fun q => ¬ P q) : Upto P d d := by
  induction d with
  | done a => exact .done a
  | ask q next ih => exact .ask hd.1 fun a => ih a (hd.2 a)

theorem upto_of_asked {d d' : Dialogue Q A Unit} (hd : d.Asks P) (hd' : d'.Asks P) : Upto P d d' := by
  induction d with
  | done a =>
    induction d' with
    | done b => exact .done a
    | ask q next ih => exact .right hd'.1 fun b => ih b (hd'.2 b)
  | ask q next ih => exact .left hd.1 fun a => ih a (hd.2 a)

theorem upto_bind {d d' : Dialogue Q A α} {f f' : α → Dialogue Q A β} (hd : Upto P d d')
    (hf : ∀ a, Upto P (f a) (f' a)) : Upto P (d >>= f) (d' >>= f') := by
  change Upto P (d.bind f) (d'.bind f')
  induction hd with
  | done a => exact hf a
  | ask hq _ ih => exact .ask hq ih
  | left hq _ ih => exact .left hq ih
  | right hq _ ih => exact .right hq ih

/-- Two surroundings, in states that are related, answer alike but for questions of a kind; the states they leave are
related again, also where only one of them is asked a question of the kind. -/
structure AlikeBut (P : Q → Prop) (R : σ → σ' → Prop) (answer : (q : Q) → σ → A q × σ)
    (answer' : (q : Q) → σ' → A q × σ') : Prop where
  same : ∀ q s s', R s s' → ¬ P q → (answer q s).1 = (answer' q s').1 ∧ R (answer q s).2 (answer' q s').2
  left : ∀ q s s', R s s' → P q → R (answer q s).2 s'
  right : ∀ q s s', R s s' → P q → R s (answer' q s').2

variable {R : σ → σ' → Prop} {answer : (q : Q) → σ → A q × σ} {answer' : (q : Q) → σ' → A q × σ'}
  {d d' : Dialogue Q A α}

theorem Upto.run_alike (hd : Upto P d d') (h : AlikeBut P R answer answer') {s : σ} {s' : σ'} (hs : R s s') :
    (d.run answer s).1 = (d'.run answer' s').1 ∧ R (d.run answer s).2 (d'.run answer' s').2 := by
  induction hd generalizing s s' with
  | done a => exact ⟨rfl, hs⟩
  | @ask q next next' hq _ ih =>
    obtain ⟨hanswer, hnext⟩ := h.same q s s' hs hq
    have hrest := ih (answer q s).1 hnext
    rw [hanswer] at hrest
    change ((next (answer q s).1).run answer (answer q s).2).1 = _ ∧ R ((next (answer q s).1).run _ _).2 _
    rw [hanswer]
    exact hrest
  | left hq _ ih => exact ih _ (h.left _ _ _ hs hq)
  | right hq _ ih => exact ih _ (h.right _ _ _ hs hq)

theorem Upto.exchanges_alike [DecidablePred P] (hd : Upto P d d') (h : AlikeBut P R answer answer') {s : σ} {s' : σ'}
    (hs : R s s') :
    (d.exchanges answer s).filter (fun x => ¬ P x.question) =
      (d'.exchanges answer' s').filter (fun x => ¬ P x.question) := by
  induction hd generalizing s s' with
  | done a => rfl
  | @ask q next next' hq _ ih =>
    obtain ⟨hanswer, hnext⟩ := h.same q s s' hs hq
    have hrest := ih (answer q s).1 hnext
    rw [hanswer] at hrest
    change List.filter _ (⟨q, (answer q s).1⟩ :: (next (answer q s).1).exchanges answer (answer q s).2) =
      List.filter _ (⟨q, (answer' q s').1⟩ :: (next' (answer' q s').1).exchanges answer' (answer' q s').2)
    rw [hanswer, List.filter_cons_of_pos (by simpa using hq), List.filter_cons_of_pos (by simpa using hq)]
    exact congrArg _ hrest
  | @left q next d hq _ ih =>
    change List.filter _ (⟨q, (answer q s).1⟩ :: (next (answer q s).1).exchanges answer (answer q s).2) = _
    rw [List.filter_cons_of_neg (by simpa using hq)]
    exact ih _ (h.left q s s' hs hq)
  | @right q next d hq _ ih =>
    change _ = List.filter _ (⟨q, (answer' q s').1⟩ :: (next (answer' q s').1).exchanges answer' (answer' q s').2)
    rw [List.filter_cons_of_neg (by simpa using hq)]
    exact ih _ (h.right q s s' hs hq)

end AccountSync.Dialogue
