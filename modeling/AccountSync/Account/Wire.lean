import AccountSync.Account.State
import AccountSync.Json.Printer
import AccountSync.Text.Mask

/-!
Login states as JSON documents: the label, and the fields of the state. The label may stand behind the
state; then everything in the state has to be fit to be kept.
-/

set_option autoImplicit false
set_option relaxedAutoImplicit false

namespace AccountSync

open Json.Reader Text

namespace Engaged

def json (s : Engaged) : Json :=
  .object [("email", .string s.email), ("uid", .string s.uid), ("verified", .bool s.verified),
    ("session_token", .string s.sessionToken), ("key_fetch_token", .string s.keyFetchToken),
    ("unwrap_kb", s.unwrapKey.json)]

def read : Json.Reader Engaged := fun t => do
  let [email, uid, verified, session, keyFetch, unwrapKey] ←
    slots [["email"], ["uid"], ["verified"], ["session_token"], ["key_fetch_token"], ["unwrap_kb"]] t
    | none
  pure ⟨← required string email, ← required string uid, ← required bool verified,
    ← required string session, ← required string keyFetch, ← required Key32.read unwrapKey⟩

end Engaged

/-- How a secret is shown. -/
def redacted : String := "Secret32(..)"

namespace Cohabiting

def json (s : Cohabiting) : Json :=
  .object [("email", .string s.email), ("uid", .string s.uid), ("session_token", .string s.sessionToken),
    ("kA", s.kA.json), ("kB", s.kB.json), ("key_pair", s.keyPair.json)]

def read : Json.Reader Cohabiting := fun t => do
  let [email, uid, session, kA, kB, pair] ←
    slots [["email"], ["uid"], ["session_token"], ["kA"], ["kB"], ["key_pair"]] t | none
  pure ⟨← required string email, ← required string uid, ← required string session,
    ← required Key32.read kA, ← required Key32.read kB, ← required KeyPair.read pair⟩

def describe (s : Cohabiting) : String :=
  Describe.record "Cohabiting" [("email", quoted s.email), ("uid", quoted s.uid),
    ("session_token", quoted s.sessionToken), ("ka", redacted), ("kb", redacted),
    ("key_pair", s.keyPair.describe)]

end Cohabiting

namespace Married

def json (m : Married) : Json :=
  .object [("account", m.account.json), ("certificate", .string m.certificate)]

def read : Json.Reader Married := fun t => do
  let [account, certificate] ← slots [["account"], ["certificate"]] t | none
  pure ⟨← required Cohabiting.read account, ← required string certificate⟩

end Married

namespace Owner

def json (o : Owner) : Json :=
  .object [("email", .string o.email), ("uid", .string o.uid)]

def read : Json.Reader Owner := fun t => do
  let [email, uid] ← slots [["email"], ["uid"]] t | none
  pure ⟨← required string email, ← required string uid⟩

def describe (name : String) (o : Owner) : String :=
  Describe.variant name (Describe.record name [("email", quoted o.email), ("uid", quoted o.uid)])

end Owner

def StateLabel.ofText? (text : String) : Option StateLabel :=
  [.engaged, .cohabiting, .married, .separated, .doghouse].find? fun l => l.text = text

/-- A name standing by itself, or as the only member of an object with nothing behind it. -/
def StateLabel.read : Json.Reader StateLabel
  | .string (some name) => ofText? name
  | .object [(some name, .null)] => ofText? name
  | _ => none

namespace Account

def stateJson : Account → Json
  | .engaged s => s.json
  | .cohabiting s => s.json
  | .married m => m.json
  | .separated o => o.json
  | .doghouse o => o.json

def json (a : Account) : Json :=
  .object [("label", .string a.label.text), ("state", a.stateJson)]

def readState (label : StateLabel) (t : Json.Tree) : Option Account :=
  match label with
  | .engaged => (Engaged.read t).map .engaged
  | .cohabiting => (Cohabiting.read t).map .cohabiting
  | .married => (Married.read t).map .married
  | .separated => (Owner.read t).map .separated
  | .doghouse => (Owner.read t).map .doghouse

def read : Json.Reader Account
  | .object ms =>
    if ms.all (·.1.isSome) then
      match ms.filter fun m => m.1 = some "label" ∨ m.1 = some "state" with
      | [(some "label", label), (some "state", state)] => do
        readState (← StateLabel.read label) state
      | [(some "state", state), (some "label", label)] => do
        let _ ← state.value? (Json.Tree.maxDepth - 1)
        readState (← StateLabel.read label) state
      | _ => none
    else none
  | .array [label, state] => do
    readState (← StateLabel.read label) state
  | _ => none

/-- A login state for people to read, without its secrets. -/
def describe : Account → String
  | .engaged s => Describe.variant "Engaged" (Describe.record "Engaged" [("email", quoted s.email),
      ("uid", quoted s.uid), ("verified", toString s.verified), ("session_token", quoted s.sessionToken),
      ("key_fetch_token", quoted s.keyFetchToken), ("unwrap_kb", redacted)])
  | .cohabiting s => Describe.variant "Cohabiting" s.describe
  | .married m => Describe.variant "Married" (Describe.record "Married"
      [("account", m.account.describe), ("certificate", quoted m.certificate)])
  | .separated o => o.describe "Separated"
  | .doghouse o => o.describe "Doghouse"

end Account

end AccountSync
