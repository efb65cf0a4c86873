import AccountSync.Account.Wire
import AccountSync.File
import AccountSync.Store.Basic

/-!
The account as a JSON file.
-/

set_option autoImplicit false
set_option relaxedAutoImplicit false

namespace AccountSync.AccountStore.File

open AccountSync.File

/-- The account that is stored at a path; none if there is nothing there. -/
def load (path : String) : Talk (Except SyncError (Option Account)) := do
  if ← Dialogue.question (Question.isPresent path) then
    match ← Dialogue.question (Question.read path) with
    | none => pure (.error (.storage (fault "read " path)))
    | some text =>
      match Account.read.ofText text with
      | some account => pure (.ok (some account))
      | none => pure (.error .serialization)
  else pure (.ok none)

def save (path : String) (account : Account) : Talk (Except SyncError Unit) := do
  if ← Dialogue.question (Question.createFolder (parent path)) then
    if ← Dialogue.question (Question.write path account.json.pretty) then pure (.ok ())
    else pure (.error (.storage (fault "write " path)))
  else pure (.error (.storage (fault "create " (parent path))))

def clear (path : String) : Talk (Except SyncError Unit) := do
  if ← Dialogue.question (Question.isPresent path) then
    if ← Dialogue.question (Question.remove path) then pure (.ok ())
    else pure (.error (.storage (fault "remove " path)))
  else pure (.ok ())

def answer (path : String) : (c : Call) → Talk c.Answer
  | .load => load path
  | .save account => save path account

end AccountSync.AccountStore.File
