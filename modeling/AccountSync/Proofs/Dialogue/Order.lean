import Mathlib.Data.List.Forall2
import AccountSync.Proofs.Dialogue.Course

/-!
What comes after what in a dialogue. Given its answers a dialogue goes one way only (`course_unique`). It may close
a kind of questions for all that follows (`Closes`), and it may pass over the answers to a kind (`Ignores`):
other answers to those then lead to the same result (`course_of_agree`).
-/

set_option autoImplicit false
set_option relaxedAutoImplicit false

namespace AccountSync.Dialogue

variable {Q Q' : Type} {A : Q → Type} {A' : Q' → Type} {α β : Type}

/-- Of two courses of a dialogue neither goes on where the other has ended. -/
theorem course_unique {d : Dialogue Q A α} {xs ys us vs : List (Exchange A)} {a b : α} (hx : Course d xs a)
    (hy : Course d ys b) (he : xs ++ us = ys ++ vs) : xs = ys ∧ a = b := by
  induction hx generalizing ys with
  | done a =>
    obtain ⟨rfl, rfl⟩ := course_pure_iff.mp hy
    exact ⟨rfl, rfl⟩
  | ask q next answer rest a _ ih =>
    obtain ⟨answer', rest', rfl, hrest⟩ := course_ask_iff.mp hy
    obtain ⟨hq, htail⟩ := List.cons.inj he
    cases hq
    obtain ⟨rfl, hab⟩ := ih hrest htail
    exact ⟨rfl, hab⟩

/-- Nor can one of them be told in two ways from what its questions were rendered to. -/
theorem translated_unique {f : (q : Q) → Dialogue Q' A' (A q)} {d : Dialogue Q A α} {xs ys : List (Exchange A)}
    {xs' ys' us vs : List (Exchange A')} {a b : α} (hx : Course d xs a) (hy : Course d ys b)
    (hxs : Translated f xs xs') (hys : Translated f ys ys') (he : xs' ++ us = ys' ++ vs) :
    xs = ys ∧ a = b ∧ xs' = ys' := by
  induction hx generalizing ys xs' ys' with
  | done a =>
    obtain ⟨rfl, rfl⟩ := course_pure_iff.mp hy
    cases hxs
    cases hys
    exact ⟨rfl, rfl, rfl⟩
  | ask q next answer rest a _ ih =>
    obtain ⟨answer', rest', rfl, hrest⟩ := course_ask_iff.mp hy
    cases hxs with
    | cons hpart hxs =>
      cases hys with
      | cons hpart' hys =>
        rw [List.append_assoc, List.append_assoc] at he
        -- Both renderings begin with a course of one part, so that ends at the same place in both.
        obtain ⟨rfl, rfl⟩ := course_unique hpart hpart' he
        obtain ⟨rfl, rfl, rfl⟩ := ih hrest hxs hys (List.append_cancel_left he)
        exact ⟨rfl, rfl, rfl⟩

/-- Once a question of the first kind is asked none of the second follows. -/
def Closes (P W : Q → Prop) : Dialogue Q A α → Prop
  | .done _ => True
  | .ask q next => (P q → ∀ a, (next a).Asks fun r => ¬ W r) ∧ ∀ a, (next a).Closes P W

/-- The answers to a kind of questions make no difference. -/
def Ignores (P : Q → Prop) : Dialogue Q A α → Prop
  | .done _ => True
  | .ask q next => (P q → ∀ a b, next a = next b) ∧ ∀ a, (next a).Ignores P

variable {P W : Q → Prop}

@[simp] theorem closes_pure (a : α) : (pure a : Dialogue Q A α).Closes P W := trivial

@[simp] theorem ignores_pure (a : α) : (pure a : Dialogue Q A α).Ignores P := trivial

theorem closes_of_unasked {d : Dialogue Q A α} (hd : d.Asks fun q => ¬ W q) : d.Closes P W := by
  induction d with
  | done a => trivial
  | ask q next ih => exact ⟨fun _ a => hd.2 a, fun a => ih a (hd.2 a)⟩

theorem ignores_of_asks {d : Dialogue Q A α} (hd : d.Asks fun q => ¬ P q) : d.Ignores P := by
  induction d with
  | done a => trivial
  | ask q next ih => exact ⟨fun hp => (hd.1 hp).elim, fun a => ih a (hd.2 a)⟩

theorem closes_question {q : Q} : (question q : Dialogue Q A (A q)).Closes P W :=
  ⟨fun _ _ => trivial, fun _ => trivial⟩

theorem closes_bind_left {d : Dialogue Q A α} {f : α → Dialogue Q A β} (hd : d.Asks fun q => ¬ P q)
    (hf : ∀ a, (f a).Closes P W) : (d >>= f).Closes P W := by
  change (d.bind f).Closes P W
  induction d with
  | done a => exact hf a
  | ask q next ih => exact ⟨fun hp => (hd.1 hp).elim, fun a => ih a (hd.2 a)⟩

theorem closes_bind_right {d : Dialogue Q A α} {f : α → Dialogue Q A β} (hd : d.Closes P W)
    (hf : ∀ a, (f a).Asks fun q => ¬ W q) (hc : ∀ a, (f a).Closes P W) : (d >>= f).Closes P W := by
  change (d.bind f).Closes P W
  induction d with
  | done a => exact hc a
  | ask q next ih => exact ⟨fun hp a => asks_bind (hd.1 hp a) hf, fun a => ih a (hd.2 a)⟩

theorem ignores_bind {d : Dialogue Q A α} {f : α → Dialogue Q A β} (hd : d.Ignores P)
    (hf : ∀ a, (f a).Ignores P) : (d >>= f).Ignores P := by
  change (d.bind f).Ignores P
  induction d with
  | done a => exact hf a
  | ask q next ih =>
    exact ⟨fun hp a b => congrArg (fun n => n.bind f) (hd.1 hp a b), fun a => ih a (hd.2 a)⟩

theorem Closes.of_course {d : Dialogue Q A α} {before after : List (Exchange A)} {x : Exchange A} {r : α}
    (hd : d.Closes P W) (h : Course d (before ++ x :: after) r) (hx : P x.question) :
    ∀ y ∈ after, ¬ W y.question := by
  induction before generalizing d with
  | nil =>
    cases h with
    | ask q next a _ _ h => exact (hd.1 hx a).of_course h
  | cons y before ih =>
    cases h with
    | ask q next a _ _ h => exact ih (hd.2 a) h

def Agree (P : Q → Prop) (x y : Exchange A) : Prop := x.question = y.question ∧ (P x.question ∨ x = y)

theorem course_of_agree {d : Dialogue Q A α} {xs ys : List (Exchange A)} {r : α} (hd : d.Ignores P)
    (h : Course d xs r) (ha : List.Forall₂ (Agree P) xs ys) : Course d ys r := by
  induction h generalizing ys with
  | done a =>
    cases ha
    exact .done a
  | ask q next a rest r _ ih =>
    cases ha with
    | @cons _ y _ ys hxy hrest =>
      obtain ⟨q', a'⟩ := y
      obtain ⟨hq, hsame⟩ := hxy
      cases hq
      have hnext : next a' = next a := by
        rcases hsame with hp | he
        · exact hd.1 hp a' a
        · cases he
          rfl
      refine .ask q next a' ys r ?_
      rw [hnext]
      exact ih (hd.2 a) hrest

end AccountSync.Dialogue
