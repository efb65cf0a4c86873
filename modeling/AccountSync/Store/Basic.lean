import AccountSync.Account.State

/-!
The two stores of a client: text under keys, and the account. Either may fail.
-/

set_option autoImplicit false
set_option relaxedAutoImplicit false

namespace AccountSync

inductive Store.Call
  | get (key : String)
  | set (key value : String)
  | remove (key : String)
  deriving DecidableEq, Repr

abbrev Store.Call.Answer : Store.Call → Type
  | .get _ => Except SyncError (Option String)
  | .set .. => Except SyncError Unit
  | .remove _ => Except SyncError Unit

inductive AccountStore.Call
  | load
  | save (account : Account)

abbrev AccountStore.Call.Answer : AccountStore.Call → Type
  | .load => Except SyncError (Option Account)
  | .save _ => Except SyncError Unit

end AccountSync
