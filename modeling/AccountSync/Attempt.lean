import AccountSync.Attempt.Question
import AccountSync.Outcome

/-!
One sync attempt. It waits for the deadlines of the scheduler and the token server, brings the account to
the married state, trades an assertion for storage credentials, waits for the deadline of the storage host
and has the engine sync. Each way through it ends in one outcome.
-/

set_option autoImplicit false
set_option relaxedAutoImplicit false

namespace AccountSync

structure Client where
  config : Config
  /-- Whom assertions are made for. -/
  audience : String
  /-- The host of the token server. -/
  tokenHost : String

/-- A client for a configuration, which is checked. -/
def Client.ofConfig (config : Config) : Except SyncError Client := do
  config.validate
  pure ⟨config, ← config.assertionAudience, ← config.tokenServerHost⟩

namespace Attempt

/-- The outcome for a failure that a later attempt may not meet. -/
def recoverable (e : SyncError) : SyncOutcome :=
  .recoverable e.message

/-- The outcome of an attempt that has to wait for a deadline. -/
def gate (purpose : Ledger.Purpose) (forced : Bool) : Talk (Option SyncOutcome) := do
  match ← books (Ledger.mayProceed purpose forced) with
  | .ok true => pure none
  | .ok false =>
    match ← books (Ledger.remaining purpose) with
    | .ok delay => pure (some (.postponed delay))
    | .error e => pure (some (recoverable e))
  | .error e => pure (some (recoverable e))

/-- Stores the account if it has changed. A failure to do so is passed over. -/
def persist (initial state : Account) : Talk Unit :=
  if state.same initial then pure ()
  else do
    let _ ← Dialogue.question (Question.account (.save state))
    pure ()

/-- Has the verifier look at an assertion. What it says makes no difference. -/
def diagnose (c : Client) (assertion : String) : Talk Unit := do
  let _ ← party (.verify c.audience assertion)
  pure ()

/-- Takes note of the time that the token server's clock shows, if it was told. -/
def noteClock (c : Client) : Option Instant → Talk Unit
  | some server => do
    let _ ← books (Ledger.observeClock c.tokenHost server)
    pure ()
  | none => pure ()

/-- Keeps a delay, if the token server asked for one. A failure to do so is passed over. -/
def noteBackoff : Option Nat → Talk Unit
  | some delay => do
    let _ ← books (Ledger.extend .tokenServer delay)
    let _ ← books (Schedule.onBackoff delay)
    pure ()
  | none => pure ()

inductive TokenFailure
  /-- The credentials were refused: the certificate is of no use. -/
  | rejected (reason : String)
  | outcome (outcome : SyncOutcome)
  deriving DecidableEq, Repr

/-- What a failed exchange means for the attempt, given the delay that was asked for. -/
def tokenFailure (e : SyncError) (delay : Option Nat) : TokenFailure :=
  if e.isInvalidAuthentication then .rejected e.message
  else
    match delay with
    | some d => .outcome (.postponed d)
    | none => .outcome (recoverable e)

def settle (c : Client) (assertion : String) (r : TokenServer.Response) :
    Talk (Except TokenFailure TokenServer.Token) := do
  noteClock c r.serverTimestamp
  noteBackoff r.backoff.delay?
  match r.result with
  | .ok token => pure (.ok token)
  | .error e =>
    if r.backoff.delay?.isNone ∧ ¬ c.config.debugAssertions then diagnose c assertion
    pure (.error (tokenFailure e r.backoff.delay?))

def fetchToken (c : Client) (m : Married) : Talk (Except TokenFailure TokenServer.Token) := do
  let issuedAt ← books (Ledger.adjustedNow c.tokenHost)
  match m.generateAssertion c.audience issuedAt (seconds c.config.assertionDuration.toNat) with
  | .error e => pure (.error (.outcome (recoverable e)))
  | .ok assertion =>
    if c.config.debugAssertions then diagnose c assertion
    match ← party (.exchange assertion m.clientState) with
    | .error e => pure (.error (.outcome (recoverable e)))
    | .ok response => settle c assertion response

/-- What an engine's outcome means for the attempt. -/
def conclude (c : Client) (m : Married) : Storage.Outcome → Talk SyncOutcome
  | .success otherClients => do
    party (.interval (Schedule.afterSuccess c.config otherClients))
    pure .success
  | .failed chain => pure (.recoverable (": ".intercalate chain))
  | .aborted reason => pure (.recoverable ("aborted: " ++ reason))
  | .unauthorized => do
    party (.interval (Schedule.singleDevice c.config))
    pure (.recoverable "storage server rejected the token")
  | .upgradeRequired => do
    party (.interval none)
    notice (.notify m.account.email .married .needsUpgrade)
    pure (.unrecoverable "storage server requires a client upgrade")
  | .crashed message =>
    pure (.recoverable ("storage engine failed: task <id> panicked with message " ++ Text.quoted message))

def session (m : Married) (token : TokenServer.Token) (endpoint : Url) (skew : Int) (forced : Bool) :
    Storage.Session :=
  ⟨token.uid, endpoint, ⟨token.id, Text.Utf8.bytes token.key, skew⟩, m.keyBundle, forced⟩

def syncStorage (c : Client) (m : Married) (token : TokenServer.Token) (forced : Bool) :
    Talk SyncOutcome := do
  match Url.parse token.endpoint with
  | .error f => pure (.recoverable f.message)
  | .ok endpoint =>
    let host := Text.LetterCase.lowerAscii (endpoint.host?.getD "")
    match ← books (Ledger.switchHost host) with
    | .error e => pure (recoverable e)
    | .ok _ =>
      match ← gate (.storage host) forced with
      | some outcome => pure outcome
      | none =>
        let skew ← books (Ledger.skew host)
        let s := session m token endpoint skew forced
        let plan ← party (.startEngine s)
        let outcome ← drive s plan
        conclude c m outcome

/-- What is said of a login run that ended short of the married state without a need of the user. -/
def shortfall (run : Login.Run) : String :=
  match run.transitions.getLast? with
  | some t => if t.detail.isEmpty then stopped else t.detail
  | none => stopped
where
  stopped := "login stopped in state " ++ run.state.label.text

/-- The outcome where login ended short of the married state. -/
def notMarried (run : Login.Run) : Talk SyncOutcome :=
  let action := run.state.neededAction
  if action = .none then pure (.recoverable (shortfall run))
  else do
    notice (.notify run.state.email run.state.label action)
    pure (.cannotSync run.state.label action)

def syncMarried (c : Client) (initial : Account) (m : Married) (forced : Bool) : Talk SyncOutcome := do
  match ← fetchToken c m with
  | .ok token =>
    persist initial (.married m)
    notice .clear
    syncStorage c m token forced
  | .error (.rejected reason) =>
    persist initial (.cohabiting m.account)
    notice (.notify m.account.email .cohabiting .needsPassword)
    pure (.unrecoverable reason)
  | .error (.outcome outcome) =>
    persist initial (.married m)
    pure outcome

/-- Tells the host how often to wake the client, if that changes. -/
def requestInterval : Option Schedule.Interval → Talk Unit
  | some interval => party (.interval interval)
  | none => pure ()

def syncAccount (c : Client) (initial : Account) (forced : Bool) : Talk SyncOutcome := do
  let run ← login (Login.advance c.config.maxLoginSteps.toNat
    (seconds c.config.certificateDuration.toNat) initial .married)
  requestInterval (Schedule.afterLogin c.config run.state.neededAction)
  match run.state with
  | .married m => syncMarried c initial m forced
  | state =>
    persist initial state
    notMarried run

/-- Goes on once the deadlines of the scheduler and the token server allow it. -/
def proceed (c : Client) (forced : Bool) : Talk SyncOutcome := do
  let _ ← books (Schedule.beforeSyncing c.config)
  match ← Dialogue.question (Question.account .load) with
  | .ok (some initial) => syncAccount c initial forced
  | .ok none => pure (.unrecoverable "no account configured")
  | .error e => pure (recoverable e)

def run (c : Client) (extras : SyncExtras) : Talk SyncOutcome := do
  match ← gate .scheduler extras.forced with
  | some outcome => pure outcome
  | none =>
    match ← gate .tokenServer extras.forced with
    | some outcome => pure outcome
    | none => proceed c extras.forced

def signIn (email password : String) : Talk (Except SyncError Account) := do
  match ← login (Login.signIn email password) with
  | .error e => pure (.error e)
  | .ok state =>
    match ← Dialogue.question (Question.account (.save state)) with
    | .error e => pure (.error e)
    | .ok () =>
      notice .clear
      pure (.ok state)

def resendVerification : Talk (Except SyncError Unit) := do
  match ← Dialogue.question (Question.account .load) with
  | .error e => pure (.error e)
  | .ok none => pure (.error .authRequired)
  | .ok (some state) => login (Login.resendVerification state)

def checkAssertion (c : Client) (assertion : String) : Talk (Except SyncError Verifier.Verdict) :=
  party (.verify c.audience assertion)

end Attempt

end AccountSync
