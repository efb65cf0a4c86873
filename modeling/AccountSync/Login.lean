import AccountSync.Account.State
import AccountSync.Dialogue
import AccountSync.Provider.Request

/-!
Logging in: an account is brought toward a state one step at a time, each by one or two requests to the
identity provider. A step makes progress, falls back, or changes nothing, which ends the run. Every step
is reported as it is taken, and the last state once.
-/

set_option autoImplicit false
set_option relaxedAutoImplicit false

namespace AccountSync.Login

inductive Action
  | fetchKeys | signCertificate | checkCertificate
  deriving DecidableEq, Repr

def Action.text : Action → String
  | .fetchKeys => "FetchKeys"
  | .signCertificate => "SignCertificate"
  | .checkCertificate => "CheckCertificate"

/-- How a step moved the account: toward being married, back, or not at all. -/
inductive Kind
  | progress | reset | stay
  deriving DecidableEq, Repr

structure Transition where
  source : StateLabel
  target : StateLabel
  action : Action
  kind : Kind
  detail : String
  deriving DecidableEq, Repr

/-- What a run asks of its surroundings, and what it reports to them. -/
inductive Question
  | now
  | ask (request : Provider.Request)
  /-- A fresh key pair. -/
  | keyPair
  | report (transition : Transition) (state : Account)
  | final (state : Account)

abbrev Question.Answer : Question → Type
  | .now => Instant
  | .ask r => Except SyncError r.Answer
  | .keyPair => Except SyncError KeyPair
  | .report .. => Unit
  | .final _ => Unit

abbrev Talk := Dialogue Question Question.Answer

def ask (request : Provider.Request) : Talk (Except SyncError request.Answer) :=
  Dialogue.question (Question.ask request)

/-- The step that can be taken from a state. -/
def nextAction (state : Account) (now : Instant) : Option Action :=
  match state with
  | .engaged _ => some .fetchKeys
  | .cohabiting _ => some .signCertificate
  | .married m => if m.hasValidCertificate now then none else some .checkCertificate
  | .separated _ => none
  | .doghouse _ => none

/-- Whether a state is the one wanted; a married one needs a certificate that is good. -/
def isSettled (state : Account) (target : StateLabel) (now : Instant) : Bool :=
  state.label = target
    && match state with
      | .married m => m.hasValidCertificate now
      | _ => true

/-- What a step came to that did not fail. -/
inductive Outcome
  | advanced (state : Account)
  | unverified (state : Account)

def withKeys (s : Engaged) (keys : Provider.KeysResponse) : Except SyncError (KeyPair → Cohabiting) :=
  match Key32.ofHex? keys.kA with
  | none => .error (.malformed "kA is not 32 hex-encoded bytes")
  | some kA =>
    match Key32.ofHex? keys.wrapKB with
    | none => .error (.malformed "wrapKB is not 32 hex-encoded bytes")
    | some wrapKB => .ok fun pair => ⟨s.email, s.uid, s.sessionToken, kA, unwrapKB wrapKB s.unwrapKey, pair⟩

/-- Fetches the keys of a verified account and draws a key pair. -/
def fetchVerified (s : Engaged) : Talk (Except SyncError Outcome) := do
  match ← ask (.fetchKeys s.keyFetchToken) with
  | .error e => pure (.error e)
  | .ok keys =>
    match withKeys s keys with
    | .error e => pure (.error e)
    | .ok account =>
      let pair ← Dialogue.question Question.keyPair
      pure (pair.map fun p => .advanced (.cohabiting (account p)))

/-- Fetches the keys, after finding out whether the account has been verified meanwhile. -/
def fetchKeys (s : Engaged) : Talk (Except SyncError Outcome) :=
  if s.verified then fetchVerified s
  else do
    match ← ask (.emailStatus s.sessionToken) with
    | .error e => pure (.error e)
    | .ok status =>
      if status.verified then fetchVerified { s with verified := true }
      else pure (.ok (.unverified (.engaged s)))

def signCertificate (s : Cohabiting) (duration : Nat) : Talk (Except SyncError Outcome) := do
  match ← ask (.signCertificate s.sessionToken s.keyPair.descriptor (clampMillis duration)) with
  | .error e => pure (.error e)
  | .ok certificate =>
    if certificate.isEmpty then pure (.error (.malformed "empty certificate"))
    else pure (.ok (.advanced (.married ⟨s, certificate⟩)))

/-- Where a step that failed leaves the account. -/
def fallBack (state : Account) (e : SyncError) : Kind × Account :=
  if e.isInvalidAuthentication then (.reset, state.toSeparated)
  else if e.isUpgradeRequired then (.reset, state.toDoghouse)
  else if e.isUnverified then
    match state with
    | .engaged s => (.stay, .engaged { s with verified := false })
    | other => (.stay, other)
  else (.stay, state)

/-- A step as it is reported, and the state it leads to. -/
def conclude (action : Action) (state : Account) : Except SyncError Outcome → Transition × Account
  | .ok (.advanced next) => (⟨state.label, next.label, action, .progress, ""⟩, next)
  | .ok (.unverified next) => (⟨state.label, next.label, action, .stay, "account not verified"⟩, next)
  | .error e =>
    let (kind, next) := fallBack state e
    (⟨state.label, next.label, action, kind, e.message⟩, next)

def step (duration : Nat) (action : Action) (state : Account) : Talk (Transition × Account) := do
  match state, action with
  | .engaged s, .fetchKeys => pure (conclude action state (← fetchKeys s))
  | .cohabiting s, .signCertificate => pure (conclude action state (← signCertificate s duration))
  | .married m, .checkCertificate =>
    pure (⟨.married, .cohabiting, action, .reset, "certificate expired"⟩, .cohabiting m.account)
  | _, _ => pure (conclude action state (.error (.invalidState action.text state.label.text)))

structure Run where
  transitions : List Transition
  state : Account

def steps (duration : Nat) (target : StateLabel) : Nat → Account → Talk Run
  | bound, state => do
    let now ← Dialogue.question Question.now
    if isSettled state target now then pure ⟨[], state⟩
    else
      match nextAction state now with
      | none => pure ⟨[], state⟩
      | some action =>
        match bound with
        | 0 => pure ⟨[], state⟩
        | bound + 1 =>
          let (transition, next) ← step duration action state
          Dialogue.question (Question.report transition next)
          if transition.kind = .stay then pure ⟨[transition], next⟩
          else
            let rest ← steps duration target bound next
            pure ⟨transition :: rest.transitions, rest.state⟩

def defaultMaxSteps : Nat := 8

/-- Brings an account toward a state, by at most so many steps but at least one. -/
def advance (maxSteps duration : Nat) (initial : Account) (target : StateLabel) : Talk Run := do
  let run ← steps duration target (max 1 maxSteps) initial
  Dialogue.question (Question.final run.state)
  pure run

/-- Signs in with a password, which itself is not sent. -/
def signIn (email password : String) : Talk (Except SyncError Account) := do
  let stretched := StretchedPassword.ofPassword email password
  let answer ← ask (.login email stretched.authPW)
  pure (answer.map fun r =>
    .engaged ⟨email, r.uid, r.verified, r.sessionToken, r.keyFetchToken, stretched.unwrapKey⟩)

/-- Has the verification code sent again; only an account without keys can need it. -/
def resendVerification : Account → Talk (Except SyncError Unit)
  | .engaged s => ask (.resendCode s.sessionToken)
  | other => pure (.error (.invalidState StateLabel.engaged.text other.label.text))

end AccountSync.Login
