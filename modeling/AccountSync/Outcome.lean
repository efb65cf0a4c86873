import AccountSync.Account.State
import AccountSync.Json.Shape

/-!
What a sync attempt is asked for and the single verdict that it ends in.
-/

set_option autoImplicit false
set_option relaxedAutoImplicit false

namespace AccountSync

/-- The options of an attempt. A forced one was asked for by the user and does not wait for delays. -/
structure SyncExtras where
  forced : Bool := false
  deriving DecidableEq

def SyncExtras.json (e : SyncExtras) : Json :=
  .object [("forced", .bool e.forced)]

def SyncExtras.read : Json.Reader SyncExtras := fun t => do
  let [forced] ← Json.Reader.slots [["forced"]] t | none
  pure ⟨← Json.Reader.withDefault Json.Reader.bool false forced⟩

inductive SyncOutcome
  | success
  /-- Some server or the rate limit asks to wait, this many milliseconds. -/
  | postponed (delay : Nat)
  /-- The user has to do something first. -/
  | cannotSync (label : StateLabel) (action : NeededAction)
  /-- A later attempt may succeed. -/
  | recoverable (reason : String)
  /-- No attempt will succeed before the user does something. -/
  | unrecoverable (reason : String)
  deriving DecidableEq, Repr

namespace SyncOutcome

def isSuccess : SyncOutcome → Bool
  | .success => true
  | _ => false

def isError : SyncOutcome → Bool
  | .recoverable _ => true
  | .unrecoverable _ => true
  | _ => false

def shouldRetry : SyncOutcome → Bool
  | .postponed _ => true
  | .recoverable _ => true
  | _ => false

def text : SyncOutcome → String
  | .success => "success"
  | .postponed delay => s!"postponed for {delay}ms"
  | .cannotSync label action => "cannot sync in state " ++ label.text ++ ": " ++ action.text
  | .recoverable reason => "recoverable error: " ++ reason
  | .unrecoverable reason => "unrecoverable error: " ++ reason

end SyncOutcome

end AccountSync
