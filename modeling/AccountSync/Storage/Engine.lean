import AccountSync.Storage.Session

/-!
Storage engines. Whatever an engine does with the servers, toward its session it takes steps and in the
end has an outcome.
-/

set_option autoImplicit false
set_option relaxedAutoImplicit false

namespace AccountSync.Storage

inductive Outcome
  /-- It went through; other clients of the account were seen. -/
  | success (otherClients : Nat)
  /-- It failed: what was attempted, and why, outermost first. -/
  | failed (chain : List String)
  | aborted (reason : String)
  | unauthorized
  | upgradeRequired
  /-- The engine broke down. -/
  | crashed (message : String)
  deriving DecidableEq, Repr

inductive Step
  | observe (status : UInt16) (headers : Http.Headers)
  | requestBackoff (delay : Nat)
  | shouldBackOff
  /-- Takes time. -/
  | work (duration : Nat)

abbrev Step.Answer : Step → Type
  | .observe .. => Except SyncError (Option Nat)
  | .requestBackoff _ => Except SyncError Unit
  | .shouldBackOff => Except SyncError Bool
  | .work _ => Unit

/-- What an engine does, by what it is answered. -/
abbrev Plan := Dialogue Step Step.Answer Outcome

def Plan.ofSteps (steps : List Step) (outcome : Outcome) : Plan :=
  steps.foldr (fun step rest => .ask step fun _ => rest) (.done outcome)

end AccountSync.Storage
