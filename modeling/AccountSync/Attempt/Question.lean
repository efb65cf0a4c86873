import AccountSync.Login
import AccountSync.Notice
import AccountSync.Storage.Engine
import AccountSync.TokenServer.Client
import AccountSync.Verifier

/-!
What a sync attempt asks of its surroundings: its ledger, its account store, the user's notice, and other
parties, which are the servers, the storage engine and the host that wakes the client.
-/

set_option autoImplicit false
set_option relaxedAutoImplicit false

namespace AccountSync

inductive Party.Question
  | provider (request : Provider.Request)
  | exchange (assertion clientState : String)
  | verify (audience assertion : String)
  /-- A key pair drawn at random. -/
  | keyPair
  /-- How often to wake the client from now on. -/
  | interval (interval : Schedule.Interval)
  | startEngine (session : Storage.Session)
  /-- The engine hears the answer to its step. -/
  | tell (step : Storage.Step) (answer : step.Answer)

abbrev Party.Question.Answer : Party.Question → Type
  | .provider r => Except SyncError r.Answer
  | .exchange .. => Except SyncError TokenServer.Response
  | .verify .. => Except SyncError Verifier.Verdict
  | .keyPair => KeyPair
  | .interval _ => Unit
  | .startEngine _ => Storage.Plan
  | .tell .. => Unit

namespace Attempt

inductive Question
  | ledger (question : Ledger.Question)
  | account (call : AccountStore.Call)
  | notice (event : Notice.Event)
  /-- Time passes. -/
  | work (duration : Nat)
  | party (question : Party.Question)

abbrev Question.Answer : Question → Type
  | .ledger q => q.Answer
  | .account c => c.Answer
  | .notice _ => Unit
  | .work _ => Unit
  | .party q => q.Answer

abbrev Talk := Dialogue Question Question.Answer

variable {α : Type}

/-- A dialogue of the ledger as a part of an attempt. -/
def books (t : Ledger.Talk α) : Talk α :=
  t.translate fun q => Dialogue.question (Question.ledger q)

def party (q : Party.Question) : Talk q.Answer :=
  Dialogue.question (Question.party q)

def notice (event : Notice.Event) : Talk Unit :=
  Dialogue.question (Question.notice event)

/-- A question of a login run as part of an attempt, which needs no report of it. -/
def ofLogin : (q : Login.Question) → Talk q.Answer
  | .now => books Ledger.now
  | .ask r => party (.provider r)
  | .keyPair => do
    let pair ← party .keyPair
    pure (.ok pair)
  | .report .. => pure ()
  | .final _ => pure ()

def login (t : Login.Talk α) : Talk α :=
  t.translate ofLogin

def perform (s : Storage.Session) : (step : Storage.Step) → Talk step.Answer
  | .observe status headers => books (s.observe status headers)
  | .requestBackoff delay => books (s.requestBackoff delay)
  | .shouldBackOff => books s.shouldBackOff
  | .work duration => Dialogue.question (Question.work duration)

def drive (s : Storage.Session) (plan : Storage.Plan) : Talk Storage.Outcome :=
  plan.translate fun step => do
    let answer ← perform s step
    party (.tell step answer)
    pure answer

end Attempt

end AccountSync
