import AccountSync.Json.Shape
import AccountSync.Text.Mask

/-!
What the token server answers, and how it is written as JSON.
-/

set_option autoImplicit false
set_option relaxedAutoImplicit false

namespace AccountSync.TokenServer

open Json.Reader

/-- Credentials for storage: an id and a key that sign requests, the user's id there, where the storage
is, and how many seconds they last. -/
structure Token where
  id : String
  key : String
  uid : String
  endpoint : String
  duration : Option UInt64
  deriving DecidableEq

structure ErrorDetail where
  location : Option String
  name : Option String
  description : Option String
  deriving DecidableEq

structure ErrorBody where
  status : Option String := none
  errors : List ErrorDetail := []
  deriving DecidableEq

/-- Text, or a whole number of 64 bits that stands for its digits. -/
def textOrNumber : Json.Reader String
  | .string s => s
  | .numeral n => n.whole?.map toString
  | _ => none

def Token.json (t : Token) : Json :=
  .object [("id", .string t.id), ("key", .string t.key), ("uid", .string t.uid),
    ("api_endpoint", .string t.endpoint),
    ("duration", Json.ofOption (fun n => .nat n.toNat) t.duration)]

def Token.read : Json.Reader Token := fun t => do
  let [id, key, uid, endpoint, duration] ←
    slots [["id"], ["key"], ["uid"], ["api_endpoint", "endpoint"], ["duration"]] t | none
  pure ⟨← required string id, ← required string key, ← required textOrNumber uid,
    ← required string endpoint, ← optional word64 duration⟩

def Token.describe (t : Token) : String :=
  Text.Describe.partly "TokenServerToken" [("id", Text.quoted t.id), ("uid", Text.quoted t.uid),
    ("api_endpoint", Text.quoted t.endpoint),
    ("duration", Text.Describe.option (t.duration.map fun n => toString n.toNat))]

def ErrorDetail.json (d : ErrorDetail) : Json :=
  .object [("location", Json.ofOption .string d.location), ("name", Json.ofOption .string d.name),
    ("description", Json.ofOption .string d.description)]

def ErrorDetail.read : Json.Reader ErrorDetail := fun t => do
  let [location, name, description] ← slots [["location"], ["name"], ["description"]] t | none
  pure ⟨← optional string location, ← optional string name, ← optional string description⟩

def ErrorBody.json (b : ErrorBody) : Json :=
  .object [("status", Json.ofOption .string b.status), ("errors", .array (b.errors.map ErrorDetail.json))]

def ErrorBody.read : Json.Reader ErrorBody := fun t => do
  let [status, errors] ← slots [["status"], ["errors"]] t | none
  pure ⟨← optional string status, ← withDefault (list ErrorDetail.read) [] errors⟩

/-- The descriptions of what was wrong in one line, names standing in for those that are missing. -/
def ErrorBody.summary (b : ErrorBody) : String :=
  let parts := b.errors.filterMap fun d => d.description <|> d.name
  if parts.isEmpty then b.status.getD "unknown error" else "; ".intercalate parts

end AccountSync.TokenServer
