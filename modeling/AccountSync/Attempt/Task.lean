import AccountSync.Attempt
import AccountSync.Latch

/-!
An attempt made by a task of its own, for which the caller waits. A task that dies leaves no outcome; the
caller is told so.
-/

set_option autoImplicit false
set_option relaxedAutoImplicit false

namespace AccountSync.Attempt

def received : Latch.Answer SyncOutcome → SyncOutcome
  | .value outcome => outcome
  | _ => .recoverable "sync task ended without reporting an outcome"

/-- What either side of the latch does when the task has ended, with or without an outcome. -/
def handover : Option SyncOutcome → List (Latch.Step SyncOutcome)
  | some outcome => [.complete outcome, .drop]
  | none => [.drop]

/-- Waits for a task that has ended. -/
def await (outcome : Option SyncOutcome) : SyncOutcome :=
  let (_, latch) := ({} : Latch SyncOutcome).run (handover outcome)
  received (latch.step .wait).1

/-- Makes one attempt in surroundings that may let the task die. -/
def runTask {σ : Type} (answer : (q : Question) → σ → Option q.Answer × σ) (c : Client)
    (extras : SyncExtras) (s : σ) : SyncOutcome × σ :=
  let (outcome, s) := (run c extras).runWhile answer s
  (await outcome, s)

end AccountSync.Attempt
