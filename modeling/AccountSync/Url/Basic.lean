/-!
Absolute URLs in their normal form: the parts, and the text that they make up.
-/

set_option autoImplicit false
set_option relaxedAutoImplicit false

namespace AccountSync

inductive Url.Fault
  | emptyHost | domain | port | ipv4 | ipv6 | hostCharacter | relative
  deriving DecidableEq, Repr

def Url.Fault.message : Url.Fault → String
  | .emptyHost => "empty host"
  | .domain => "invalid international domain name"
  | .port => "invalid port number"
  | .ipv4 => "invalid IPv4 address"
  | .ipv6 => "invalid IPv6 address"
  | .hostCharacter => "invalid domain character"
  | .relative => "relative URL without a base"

/-- What stands between the slashes and the path: an optional user, the host and a port that is not the
scheme's own. The host of some schemes may be empty. -/
structure Url.Authority where
  username : String
  password : Option String
  host : String
  port : Option Nat
  deriving DecidableEq, Repr

structure Url where
  scheme : String
  authority : Option Url.Authority
  path : String
  query : Option String
  fragment : Option String
  deriving DecidableEq, Repr

namespace Url

def defaultPort? (scheme : String) : Option Nat :=
  if scheme = "http" ∨ scheme = "ws" then some 80
  else if scheme = "https" ∨ scheme = "wss" then some 443
  else if scheme = "ftp" then some 21
  else none

/-- Whether a scheme has the rules of the web's own schemes. -/
def isSpecial (scheme : String) : Bool :=
  (defaultPort? scheme).isSome || scheme = "file"

/-- A port behind its colon. -/
def portText : Option Nat → String
  | none => ""
  | some p => s!":{p}"

def Authority.userText (a : Authority) : String :=
  match a.password with
  | some p => a.username ++ ":" ++ p ++ "@"
  | none => if a.username.isEmpty then "" else a.username ++ "@"

def Authority.text (a : Authority) : String :=
  a.userText ++ a.host ++ portText a.port

/-- The text of a URL. A path that begins with two slashes is kept apart from an authority. -/
def text (u : Url) : String :=
  let authority := match u.authority with
    | some a => "//" ++ a.text
    | none => if u.path.startsWith "//" then "/." else ""
  u.scheme ++ ":" ++ authority ++ u.path
    ++ (match u.query with | some q => "?" ++ q | none => "")
    ++ (match u.fragment with | some f => "#" ++ f | none => "")

/-- The host, if there is one that is not empty. -/
def host? (u : Url) : Option String :=
  u.authority.bind fun a => if a.host.isEmpty then none else some a.host

def withoutUser (u : Url) : Url :=
  { u with authority := u.authority.map fun a => { a with username := "", password := none } }

end Url

end AccountSync
