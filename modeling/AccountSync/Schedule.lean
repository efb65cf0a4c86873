import AccountSync.Account.State
import AccountSync.Config
import AccountSync.Ledger

/-!
When the next attempt may and should be made: a rate limit and the delays that servers ask for go into
the ledger, and the host is told how often to wake the client.
-/

set_option autoImplicit false
set_option relaxedAutoImplicit false

namespace AccountSync.Schedule

/-- How often to wake the client, as a length of time; `none` is never. -/
abbrev Interval := Option Nat

/-- The next attempt waits at least for the rate limit, however this one ends. -/
def beforeSyncing (c : Config) : Ledger.Talk (Except SyncError Instant) :=
  Ledger.extend .scheduler (seconds c.schedulerRateLimit.toNat)

/-- A server asked for a delay; the next attempt keeps it too. -/
def onBackoff (delay : Nat) : Ledger.Talk (Except SyncError Instant) :=
  Ledger.extend .scheduler delay

def singleDevice (c : Config) : Interval := some (seconds c.singleDeviceInterval.toNat)

def afterSuccess (c : Config) (otherClients : Nat) : Interval :=
  if 0 < otherClients then some (seconds c.multiDeviceInterval.toNat) else singleDevice c

/-- The interval that follows from what the user has to do, if it changes. -/
def afterLogin (c : Config) : NeededAction → Option Interval
  | .needsVerification => some (some (seconds c.unverifiedInterval.toNat))
  | .needsPassword => some none
  | .needsUpgrade => some none
  | .none => none

end AccountSync.Schedule
