import AccountSync.Dialogue
import AccountSync.Instant
import AccountSync.Store.Basic
import AccountSync.Text.Decimal
import AccountSync.Text.LetterCase

/-!
The ledger of a client: for each purpose the instant before which no request may be made, kept in a
store; the storage host of the last attempt; and by how much the clocks of hosts run ahead. A deadline
moves forward only (`extend`), until it is dropped (`clear`).
-/

set_option autoImplicit false
set_option relaxedAutoImplicit false

namespace AccountSync.Ledger

inductive Question
  /-- The local time. -/
  | now
  | store (call : Store.Call)
  /-- By how many seconds the clock of a host runs ahead. -/
  | skew (host : String)
  | recordSkew (host : String) (seconds : Int)

abbrev Question.Answer : Question → Type
  | .now => Instant
  | .store c => c.Answer
  | .skew _ => Int
  | .recordSkew .. => Unit

abbrev Talk := Dialogue Question Question.Answer

abbrev Purpose := String

/-- The time between sync attempts. -/
def Purpose.scheduler : Purpose := "scheduler"

/-- What the token server asked for. -/
def Purpose.tokenServer : Purpose := "token"

/-- What a storage host asked for. Hosts are the same in small and capital letters. -/
def Purpose.storage (host : String) : Purpose :=
  "storage:" ++ Text.LetterCase.lowerAscii host

def deadlineKey (purpose : Purpose) : String :=
  "backoff." ++ purpose ++ ".earliest_next_request"

def lastHostKey : String := "storage.last_host"

def now : Talk Instant := Dialogue.question Question.now

def get (key : String) : Talk (Except SyncError (Option String)) := Dialogue.question (Question.store (.get key))

def set (key value : String) : Talk (Except SyncError Unit) := Dialogue.question (Question.store (.set key value))

def remove (key : String) : Talk (Except SyncError Unit) := Dialogue.question (Question.store (.remove key))

/-- The deadline that a text tells. A text that tells none counts as missing. -/
def readDeadline (text : Option String) : Option Instant :=
  (text.bind Text.Decimal.word?).map UInt64.ofNat

def deadline (purpose : Purpose) : Talk (Except SyncError (Option Instant)) := do
  let text ← get (deadlineKey purpose)
  pure (text.map readDeadline)

/-- The time from an instant to a deadline; none once it has come. -/
def timeLeft (now : Instant) (deadline : Option Instant) : Nat :=
  deadline.elim 0 fun d => d.toNat - now.toNat

/-- The time until a purpose is free. -/
def remaining (purpose : Purpose) : Talk (Except SyncError Nat) := do
  let now ← now
  let found ← deadline purpose
  pure (found.map (timeLeft now))

/-- Whether a request may be made. One that was forced always may. -/
def mayProceed (purpose : Purpose) (forced : Bool) : Talk (Except SyncError Bool) :=
  if forced then pure (.ok true)
  else do
    let left ← remaining purpose
    pure (left.map (· = 0))

/-- Moves a deadline to at least some time from now, and gives the deadline that then stands. -/
def extend (purpose : Purpose) (delay : Nat) : Talk (Except SyncError Instant) := do
  let now ← now
  let proposed := after now delay
  match ← deadline purpose with
  | .error e => pure (.error e)
  | .ok stored =>
    let current := stored.getD 0
    if proposed ≤ current then pure (.ok current)
    else
      match ← set (deadlineKey purpose) (toString proposed.toNat) with
      | .error e => pure (.error e)
      | .ok () => pure (.ok proposed)

def clear (purpose : Purpose) : Talk (Except SyncError Unit) :=
  remove (deadlineKey purpose)

def lastHost : Talk (Except SyncError (Option String)) := get lastHostKey

def setLastHost (host : String) : Talk (Except SyncError Unit) :=
  set lastHostKey (Text.LetterCase.lowerAscii host)

def sameHost (a b : String) : Bool :=
  Text.LetterCase.lowerAscii a = Text.LetterCase.lowerAscii b

/-- Makes a host the current one and tells whether it was not so before. The deadline of the host before
it is dropped. -/
def switchHost (host : String) : Talk (Except SyncError Bool) := do
  match ← lastHost with
  | .error e => pure (.error e)
  | .ok none =>
    let set ← setLastHost host
    pure (set.map fun _ => true)
  | .ok (some previous) =>
    if sameHost previous host then pure (.ok false)
    else
      match ← clear (.storage previous) with
      | .error e => pure (.error e)
      | .ok () =>
        let set ← setLastHost host
        pure (set.map fun _ => true)

/-- By how many seconds the clock of a host runs ahead, as far as is known. -/
def skew (host : String) : Talk Int :=
  Dialogue.question (Question.skew (Text.LetterCase.lowerAscii host))

def recordSkew (host : String) (seconds : Int) : Talk Unit :=
  Dialogue.question (Question.recordSkew (Text.LetterCase.lowerAscii host) seconds)

/-- The whole seconds from the local time to a server's, counted toward zero; both have to be below
2^63. -/
def skewBetween? (server now : Instant) : Option Int :=
  if server.toNat < 0x8000000000000000 ∧ now.toNat < 0x8000000000000000 then
    some (Int.tdiv ((server.toNat : Int) - now.toNat) 1000)
  else none

/-- Records the time that a host's clock shows now, and gives the skew that then stands. -/
def observeClock (host : String) (server : Instant) : Talk Int := do
  match skewBetween? server (← now) with
  | none => skew host
  | some seconds =>
    recordSkew host seconds
    pure seconds

/-- A skew in milliseconds, within 64 bits. -/
def skewMillis (seconds : Int) : Int :=
  max (-0x8000000000000000) (min (1000 * seconds) 0x7FFFFFFFFFFFFFFF)

/-- An instant moved by a skew, within the instants there are. -/
def shift (now : Instant) (seconds : Int) : Instant :=
  UInt64.ofNat (min ((now.toNat : Int) + skewMillis seconds).toNat maxMillis)

def adjustedNow (host : String) : Talk Instant := do
  let now ← now
  let seconds ← skew host
  pure (shift now seconds)

end AccountSync.Ledger
