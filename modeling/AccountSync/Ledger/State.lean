import AccountSync.Ledger
import AccountSync.Store.Memory

/-!
Surroundings of a ledger in memory: a clock that stands until it is moved, a store, and the skews that
were recorded.
-/

set_option autoImplicit false
set_option relaxedAutoImplicit false

namespace AccountSync.Ledger

/-- The clock, the store and the known skews, latest first. -/
structure State where
  clock : Instant
  store : Store.Memory := {}
  skews : List (String × Int) := []

namespace State

def skew (s : State) (host : String) : Int :=
  (s.skews.lookup host).getD 0

def answer (q : Question) (s : State) : q.Answer × State :=
  match q with
  | .now => (s.clock, s)
  | .store c =>
    let (a, store) := s.store.answer c
    (a, { s with store })
  | .skew host => (s.skew host, s)
  | .recordSkew host seconds => ((), { s with skews := (host, seconds) :: s.skews })

def advance (s : State) (duration : Nat) : State :=
  { s with clock := after s.clock duration }

end State

end AccountSync.Ledger
