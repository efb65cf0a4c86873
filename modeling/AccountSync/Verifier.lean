import AccountSync.Http.Message
import AccountSync.Json.Shape

/-!
The remote verifier, which is asked about assertions for diagnosis only. Its verdict is kept with all it
says.
-/

set_option autoImplicit false
set_option relaxedAutoImplicit false

namespace AccountSync.Verifier

inductive Verdict
  | okay (body : Json)
  | failure (body : Json)

/-- The status in an answer: under its name, or as the only item. -/
def status? (body : Json) : Option String :=
  match body with
  | .object _ => (body.member? "status").bind Json.string?
  | .array [.string status] => some status
  | _ => none

def verdictOf (body : List UInt8) : Except SyncError Verdict :=
  match Json.ofBytes? body with
  | none => .error (.malformed Json.fault)
  | some j =>
    match status? j with
    | none => .error (.malformed Json.fault)
    | some status => .ok (if status = "okay" then .okay j else .failure j)

/-- Asks the verifier about an assertion for an audience. The status of its response says nothing. -/
def verify (url audience assertion : String) : Http.Talk (Except SyncError Verdict) := do
  let body := Json.ofMembers [("audience", .string audience), ("assertion", .string assertion)]
  match ← Http.send (Http.Request.make .post url [] (some body)) with
  | .error e => pure (.error e)
  | .ok response => pure (verdictOf response.body)

end AccountSync.Verifier
