import AccountSync.Http.Signal
import AccountSync.Identity.Keys
import AccountSync.Identity.RequestSigner
import AccountSync.Schedule

/-!
What a storage engine is given for one sync: credentials, the keys of its collections, and a way to report
what the storage server asks for. It never sees the account.
-/

set_option autoImplicit false
set_option relaxedAutoImplicit false

namespace AccountSync.Storage

structure Session where
  uid : String
  endpoint : Url
  signer : RequestSigner
  keyBundle : KeyBundle
  forced : Bool

namespace Session

/-- The storage host in small letters. -/
def host (s : Session) : String :=
  Text.LetterCase.lowerAscii (s.endpoint.host?.getD "")

def describe (s : Session) : String :=
  Text.Describe.partly "StorageSession" [("uid", Text.quoted s.uid),
    ("endpoint", Text.quoted s.endpoint.text), ("signer", s.signer.describe), ("forced", toString s.forced)]

def shouldBackOff (s : Session) : Ledger.Talk (Except SyncError Bool) := do
  let free ← Ledger.mayProceed (.storage s.host) false
  pure (free.map (!·))

/-- Keeps a delay that the storage server asked for, for its host and for the next attempt. -/
def requestBackoff (s : Session) (delay : Nat) : Ledger.Talk (Except SyncError Unit) := do
  match ← Ledger.extend (.storage s.host) delay with
  | .error e => pure (.error e)
  | .ok _ =>
    let kept ← Schedule.onBackoff delay
    pure (kept.map fun _ => ())

def observeClock (s : Session) (headers : Http.Headers) : Ledger.Talk Unit :=
  match headers.serverTimestamp? with
  | some server => do
    let _ ← Ledger.observeClock s.host server
    pure ()
  | none => pure ()

/-- Takes note of a response: of the server's clock and of the delay it asks for, which is given back. -/
def observe (s : Session) (status : UInt16) (headers : Http.Headers) :
    Ledger.Talk (Except SyncError (Option Nat)) := do
  s.observeClock headers
  let now ← Ledger.now
  match (headers.backoffSignal status now).delay? with
  | none => pure (.ok none)
  | some delay =>
    let kept ← s.requestBackoff delay
    pure (kept.map fun _ => some delay)

end Session

end AccountSync.Storage
