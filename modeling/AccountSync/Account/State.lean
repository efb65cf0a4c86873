import AccountSync.Error
import AccountSync.Identity.Assertion
import AccountSync.Identity.Keys

/-!
The login states of an account. It moves from engaged over cohabiting to married as keys are fetched
and a certificate is signed, and falls back to separated (the password is needed) or to the doghouse
(a newer client is needed). Each state holds what it needs and no more.
-/

set_option autoImplicit false
set_option relaxedAutoImplicit false

namespace AccountSync

inductive StateLabel
  | engaged | cohabiting | married | separated | doghouse
  deriving DecidableEq, Repr

def StateLabel.text : StateLabel → String
  | .engaged => "Engaged"
  | .cohabiting => "Cohabiting"
  | .married => "Married"
  | .separated => "Separated"
  | .doghouse => "Doghouse"

/-- What the user has to do before the account can sync. -/
inductive NeededAction
  | none | needsVerification | needsPassword | needsUpgrade
  deriving DecidableEq, Repr

def NeededAction.text : NeededAction → String
  | .none => "none"
  | .needsVerification => "verify account email"
  | .needsPassword => "re-enter password"
  | .needsUpgrade => "upgrade client"

/-- Signed in; the keys are still to be fetched. -/
structure Engaged where
  email : String
  uid : String
  verified : Bool
  sessionToken : String
  keyFetchToken : String
  unwrapKey : Key32
  deriving DecidableEq

/-- Has its keys and a key pair, but no certificate. -/
structure Cohabiting where
  email : String
  uid : String
  sessionToken : String
  kA : Key32
  kB : Key32
  keyPair : KeyPair
  deriving DecidableEq

/-- Holds a certificate for its key pair. -/
structure Married where
  account : Cohabiting
  certificate : String
  deriving DecidableEq

/-- Whose account it is: all that is left once credentials are dropped. -/
structure Owner where
  email : String
  uid : String
  deriving DecidableEq

inductive Account
  | engaged (state : Engaged)
  | cohabiting (state : Cohabiting)
  | married (state : Married)
  | separated (owner : Owner)
  | doghouse (owner : Owner)
  deriving DecidableEq

namespace Married

def certificateExpiry (m : Married) : Except SyncError Instant :=
  (AccountSync.certificateExpiry m.certificate).mapError .crypto

/-- A certificate is good until strictly before its expiry. -/
def hasValidCertificate (m : Married) (now : Instant) : Bool :=
  match m.certificateExpiry with
  | .ok expiry => now < expiry
  | .error _ => false

def generateAssertion (m : Married) (audience : String) (issuedAt : Instant) (duration : Nat) :
    Except SyncError String :=
  (AccountSync.generateAssertion m.account.keyPair m.certificate audience defaultAssertionIssuer issuedAt
    duration).mapError .crypto

def keyBundle (m : Married) : KeyBundle := KeyBundle.derive m.account.kB

/-- The tag of `kB` for the token server. -/
def clientState (m : Married) : String := AccountSync.clientState m.account.kB

end Married

namespace Account

def label : Account → StateLabel
  | .engaged _ => .engaged
  | .cohabiting _ => .cohabiting
  | .married _ => .married
  | .separated _ => .separated
  | .doghouse _ => .doghouse

def owner : Account → Owner
  | .engaged s => ⟨s.email, s.uid⟩
  | .cohabiting s => ⟨s.email, s.uid⟩
  | .married s => ⟨s.account.email, s.account.uid⟩
  | .separated o => o
  | .doghouse o => o

def email (a : Account) : String := a.owner.email

def uid (a : Account) : String := a.owner.uid

def sessionToken? : Account → Option String
  | .engaged s => some s.sessionToken
  | .cohabiting s => some s.sessionToken
  | .married s => some s.account.sessionToken
  | .separated _ => none
  | .doghouse _ => none

def keyPair? : Account → Option KeyPair
  | .cohabiting s => some s.keyPair
  | .married s => some s.account.keyPair
  | _ => none

def neededAction : Account → NeededAction
  | .engaged s => if s.verified then .none else .needsVerification
  | .cohabiting _ => .none
  | .married _ => .none
  | .separated _ => .needsPassword
  | .doghouse _ => .needsUpgrade

/-- Drops every credential: the password is needed. -/
def toSeparated (a : Account) : Account := .separated a.owner

/-- Drops every credential: a newer client is needed. -/
def toDoghouse (a : Account) : Account := .doghouse a.owner

/-- The account with its key pair replaced by what others see of it. -/
def shown : Account → Account × Option Key32
  | .cohabiting s => (.cohabiting { s with keyPair := default }, some s.keyPair.publicKey)
  | .married m =>
    (.married { m with account := { m.account with keyPair := default } }, some m.account.keyPair.publicKey)
  | a => (a, none)

/-- Two states count as the same if they differ at most in how their key pairs came about. -/
def same (a b : Account) : Bool :=
  a.shown = b.shown

end Account

end AccountSync
