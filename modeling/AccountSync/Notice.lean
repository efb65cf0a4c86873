import AccountSync.Account.State

/-!
The notice that tells the user what has to be done. There is at most one at a time.
-/

set_option autoImplicit false
set_option relaxedAutoImplicit false

namespace AccountSync

/-- The state that an account is in and what it needs, as far as the user was told. -/
abbrev Notice := Option (StateLabel × NeededAction)

inductive Notice.Event
  | clear
  | notify (email : String) (label : StateLabel) (action : NeededAction)
  deriving DecidableEq, Repr

def Notice.after : Notice.Event → Notice
  | .clear => none
  | .notify _ label action => some (label, action)

/-- The notice that stands after all that was said in turn. -/
def Notice.current (said : List Notice.Event) : Notice :=
  said.getLast?.bind Notice.after

end AccountSync
