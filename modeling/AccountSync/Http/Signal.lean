import AccountSync.Http.Date
import AccountSync.Http.Header
import AccountSync.Http.Status
import AccountSync.Instant
import AccountSync.Text.Decimal
import AccountSync.Text.Split

/-!
What servers say in their headers: that the client should slow down, what time it is, how much is stored
and how much may be. A header that is missing, blank or makes no sense says nothing, which is not the
same as zero.
-/

set_option autoImplicit false
set_option relaxedAutoImplicit false

namespace AccountSync.Http

/-- Decimal seconds as milliseconds, cut off behind the third place. -/
def decimalSeconds? (text : String) : Option Instant := do
  let (whole, fraction) := (Text.splitOnce? '.' text.toList).getD (text.toList, [])
  let seconds ← Text.Decimal.digits? whole
  if fraction.all Char.isDigit then
    let millis := (fraction ++ ['0', '0', '0']).take 3 |>.foldl (fun n c => 10 * n + (c.toNat - 48)) 0
    let total := 1000 * seconds + millis
    if total ≤ maxMillis then some (UInt64.ofNat total) else none
  else none

/-- The requests to slow down that came with one response, in seconds. -/
structure BackoffSignal where
  status : UInt16
  retryAfter : Option Nat := none
  backoff : Option Nat := none
  weaveBackoff : Option Nat := none
  deriving DecidableEq, Repr

namespace Headers

def word? (hs : Headers) (name : String) : Option Nat :=
  (hs.text? name).bind Text.Decimal.word?

/-- When to come back, in whole seconds from now. A date that has passed says nothing. -/
def retryAfter? (hs : Headers) (now : Instant) : Option Nat := do
  let text ← hs.text? "retry-after"
  match Text.Decimal.word? text with
  | some n => some n
  | none =>
    let date ← Date.millis? text
    if now.toNat < 0x8000000000000000 ∧ (now.toNat : Int) ≤ date then some ((date - now.toNat).toNat / 1000) else none

def weaveTimestamp? (hs : Headers) : Option Instant :=
  (hs.text? "x-weave-timestamp").bind decimalSeconds?

/-- The time by the server's clock, from the first header that tells it. -/
def serverTimestamp? (hs : Headers) : Option Instant :=
  hs.weaveTimestamp?
    <|> (hs.text? "x-timestamp").bind decimalSeconds?
    <|> ((hs.text? "date").bind Date.millis?).bind fun ms => if 0 ≤ ms then some (UInt64.ofNat ms.toNat) else none

def records? (hs : Headers) : Option Nat :=
  hs.word? "x-weave-records"

/-- How much more may be stored; less than nothing if too much is. -/
def quotaRemaining? (hs : Headers) : Option Int :=
  (hs.text? "x-weave-quota-remaining").bind Text.Decimal.integer?

def alert? (hs : Headers) : Option String :=
  hs.text? "x-weave-alert"

def backoffSignal (hs : Headers) (status : UInt16) (now : Instant) : BackoffSignal :=
  ⟨status, hs.retryAfter? now, hs.word? "x-backoff", hs.word? "x-weave-backoff"⟩

end Headers

namespace BackoffSignal

def totalSeconds (s : BackoffSignal) (withRetryAfter : Bool) : Option Nat :=
  ([if withRetryAfter then s.retryAfter else none, s.backoff, s.weaveBackoff].filterMap id).max?

/-- The delay to keep, as a length of time. When to come back counts on failures only. -/
def total (s : BackoffSignal) : Option Nat :=
  (s.totalSeconds (!isSuccess s.status)).map seconds

def delay? (s : BackoffSignal) : Option Nat :=
  s.total.filter (· ≠ 0)

def isEmpty (s : BackoffSignal) : Bool :=
  s.retryAfter.isNone && s.backoff.isNone && s.weaveBackoff.isNone

end BackoffSignal

end AccountSync.Http
