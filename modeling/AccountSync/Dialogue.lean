/-!
Programs that ask questions of their surroundings. A dialogue is a tree: it has ended, or it asks a
question and goes on by the answer. What it does in given surroundings is `run`; the answers it may meet
in any surroundings are its `Course`s. Main statement: `run_bind`, dialogues run one after the other.
-/

set_option autoImplicit false
set_option relaxedAutoImplicit false

namespace AccountSync

/-- A program with questions in `Q`, each answered in its own type, and a result. -/
inductive Dialogue (Q : Type) (A : Q → Type) (α : Type)
  | done (result : α)
  | ask (question : Q) (next : A question → Dialogue Q A α)

namespace Dialogue

variable {Q : Type} {A : Q → Type} {α β σ : Type}

def bind : Dialogue Q A α → (α → Dialogue Q A β) → Dialogue Q A β
  | .done a, f => f a
  | .ask q next, f => .ask q fun a => (next a).bind f

instance : Monad (Dialogue Q A) where
  pure := .done
  bind := bind

def question (q : Q) : Dialogue Q A (A q) :=
  .ask q .done

/-- Leaves every question to a dialogue in other surroundings. -/
def translate {Q' : Type} {A' : Q' → Type} (f : (q : Q) → Dialogue Q' A' (A q)) :
    Dialogue Q A α → Dialogue Q' A' α
  | .done a => .done a
  | .ask q next => (f q).bind fun a => (next a).translate f

/-- What a dialogue comes to in surroundings that answer from their state. -/
def run (answer : (q : Q) → σ → A q × σ) : Dialogue Q A α → σ → α × σ
  | .done a, s => (a, s)
  | .ask q next, s => (next (answer q s).1).run answer (answer q s).2

/-- What a dialogue comes to in surroundings that may leave a question without an answer: then it never
ends. -/
def runWhile (answer : (q : Q) → σ → Option (A q) × σ) : Dialogue Q A α → σ → Option α × σ
  | .done a, s => (some a, s)
  | .ask q next, s =>
    match answer q s with
    | (some a, s) => (next a).runWhile answer s
    | (none, s) => (none, s)

structure Exchange (A : Q → Type) where
  question : Q
  answer : A question

/-- The questions that a dialogue asks in turn, the answers they may get, and what it comes to. -/
inductive Course : Dialogue Q A α → List (Exchange A) → α → Prop
  | done (a : α) : Course (.done a) [] a
  | ask (q : Q) (next : A q → Dialogue Q A α) (a : A q) (rest : List (Exchange A)) (result : α) :
      Course (next a) rest result → Course (.ask q next) (⟨q, a⟩ :: rest) result

def exchanges (answer : (q : Q) → σ → A q × σ) : Dialogue Q A α → σ → List (Exchange A)
  | .done _, _ => []
  | .ask q next, s => ⟨q, (answer q s).1⟩ :: (next (answer q s).1).exchanges answer (answer q s).2

@[simp] theorem run_pure (answer : (q : Q) → σ → A q × σ) (a : α) (s : σ) :
    (pure a : Dialogue Q A α).run answer s = (a, s) := rfl

@[simp] theorem run_question (answer : (q : Q) → σ → A q × σ) (q : Q) (s : σ) :
    (question q : Dialogue Q A (A q)).run answer s = answer q s := rfl

@[simp] theorem run_bind (answer : (q : Q) → σ → A q × σ) (d : Dialogue Q A α) (f : α → Dialogue Q A β)
    (s : σ) : (d >>= f).run answer s = (f (d.run answer s).1).run answer (d.run answer s).2 := by
  show (d.bind f).run answer s = _
  induction d generalizing s with
  | done a => rfl
  | ask q next ih => exact ih _ _

theorem course_run (answer : (q : Q) → σ → A q × σ) (d : Dialogue Q A α) (s : σ) :
    Course d (d.exchanges answer s) (d.run answer s).1 := by
  induction d generalizing s with
  | done a => exact .done a
  | ask q next ih => exact .ask q next _ _ _ (ih _ _)

end Dialogue

end AccountSync
