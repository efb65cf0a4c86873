import AccountSync.Text.Split
import AccountSync.Text.Utf8
import AccountSync.Url.Address
import AccountSync.Url.Domain
import AccountSync.Url.Percent

/-!
Reading absolute URLs into their normal form. Blanks and control characters around the text are
dropped, and tabs and line breaks anywhere; of the web's own schemes the slashes may be missing or
backslashes.
-/

set_option autoImplicit false
set_option relaxedAutoImplicit false

namespace AccountSync.Url

/-- The text without blanks and control characters at its ends and without tabs and line breaks. -/
def clean (text : String) : List Char :=
  let isEdge (c : Char) : Bool := c.toNat ≤ 32
  let cs := text.toList.dropWhile isEdge
  let cs := (cs.reverse.dropWhile isEdge).reverse
  cs.filter fun c => c ≠ '\t' && c ≠ '\n' && c ≠ '\r'

def isSchemeChar (c : Char) : Bool :=
  c.isAlphanum || c = '+' || c = '-' || c = '.'

/-- The scheme in small letters, and what follows its colon. -/
def splitScheme? (cs : List Char) : Option (String × List Char) :=
  match cs with
  | c :: _ =>
    if c.isAlpha then
      match cs.dropWhile isSchemeChar with
      | ':' :: rest => some (String.ofList ((cs.takeWhile isSchemeChar).map Char.toLower), rest)
      | _ => none
    else none
  | [] => none

def endsAuthority (special : Bool) (c : Char) : Bool :=
  c = '/' || c = '?' || c = '#' || (special && c = '\\')

/-- A slash, or what stands for one. -/
def isSlash (special : Bool) (c : Char) : Bool :=
  c = '/' || (special && c = '\\')

/-- A letter and a colon or bar, as a drive is written. -/
def isDrive : List Char → Bool
  | [a, b] => a.isAlpha && (b = ':' || b = '|')
  | _ => false

def isNormalDrive : List Char → Bool
  | [a, ':'] => a.isAlpha
  | _ => false

def isDoubleDot (seg : List Char) : Bool :=
  ["..", "%2e%2e", "%2e.", ".%2e"].contains (String.ofList (seg.map Char.toLower))

def isSingleDot (seg : List Char) : Bool :=
  [".", "%2e"].contains (String.ofList (seg.map Char.toLower))

/-- Drops the last segment, latest first, except the drive of a file. -/
def shorten (file : Bool) : List (List Char) → List (List Char)
  | [] => []
  | [seg] => if file && isNormalDrive seg then [seg] else []
  | _ :: rest => rest

/-- The segments of a path with dots resolved, latest first, given those before. -/
def resolve (file : Bool) : List (List Char) → List (List Char) → List (List Char)
  | acc, [] => acc
  | acc, [seg] =>
    if isDoubleDot seg then [] :: shorten file acc
    else if isSingleDot seg then [] :: acc
    else place file seg :: acc
  | acc, seg :: rest =>
    if isDoubleDot seg then resolve file (shorten file acc) rest
    else if isSingleDot seg then resolve file acc rest
    else resolve file (place file seg :: acc) rest
where
  /-- A segment as it is kept: the drive of a file has a colon. -/
  place (file : Bool) (seg : List Char) : List Char :=
    match seg with
    | [a, _] => if file && isDrive seg then [a, ':'] else seg
    | _ => seg

def segments (special : Bool) (cs : List Char) : List (List Char) :=
  Text.splitAll '/' (cs.map fun c => if isSlash special c then '/' else c)

/-- The normal form of a path that begins behind a slash. -/
def pathText (scheme : String) (cs : List Char) : String :=
  let file := scheme = "file"
  let encoded := (segments (isSpecial scheme) cs).map fun seg => seg.flatMap (Percent.encodeChar Percent.inPath)
  let segs := (resolve file [] encoded).reverse
  let text := segs.flatMap fun seg => '/' :: seg
  if file then String.ofList ('/' :: text.dropWhile (· = '/')) else String.ofList text

/-- Parts of a text before the query, the query and the fragment. -/
def splitTail (cs : List Char) : List Char × Option (List Char) × Option (List Char) :=
  let (front, fragment) := match Text.splitOnce? '#' cs with
    | some (a, b) => (a, some b)
    | none => (cs, none)
  match Text.splitOnce? '?' front with
  | some (a, b) => (a, some b, fragment)
  | none => (front, none, fragment)

/-- The host that stands in a URL of the web's own schemes. -/
def specialHost (cs : List Char) : Except Fault String :=
  match cs with
  | '[' :: rest =>
    if rest.getLast? = some ']' then
      match Ipv6.parse? rest.dropLast with
      | some ps => .ok (Ipv6.text ps)
      | none => .error .ipv6
    else .error .ipv6
  | _ =>
    match Domain.toAscii? (Percent.decode (Text.Utf8.encode cs)) with
    | none => .error .domain
    | some [] => .error .emptyHost
    | some name =>
      if Ipv4.endsInNumber name then
        match Ipv4.parse? name with
        | some n => .ok (Ipv4.text n)
        | none => .error .ipv4
      else .ok (String.ofList name)

/-- The host that stands in a URL of any other scheme. -/
def opaqueHost (cs : List Char) : Except Fault String :=
  match cs with
  | '[' :: _ => specialHost cs
  | _ =>
    if cs.any fun c => ['\x00', ' ', '#', '/', ':', '<', '>', '?', '@', '[', '\\', ']', '^', '|'].contains c
    then .error .hostCharacter
    else .ok (Percent.encode Percent.isControl cs)

/-- The host at the start of a text and what follows it: a colon ends it unless it stands between
brackets. -/
def takeHost (special : Bool) : Bool → List Char → List Char × List Char
  | _, [] => ([], [])
  | inside, c :: rest =>
    if (c = ':' && !inside) || endsAuthority special c then ([], c :: rest)
    else
      let inside := if c = '[' then true else if c = ']' then false else inside
      let (host, rest) := takeHost special inside rest
      (c :: host, rest)

def takePort (cs : List Char) : Except Fault (Option Nat × List Char) :=
  let ds := cs.takeWhile Char.isDigit
  let rest := cs.dropWhile Char.isDigit
  let n := ds.foldl (fun n c => 10 * n + (c.toNat - 48)) 0
  if 65535 < n then .error .port
  else
    match rest with
    | [] => .ok (if ds.isEmpty then none else some n, rest)
    | c :: _ =>
      if ['/', '\\', '?', '#'].contains c then .ok (if ds.isEmpty then none else some n, rest)
      else .error .port

/-- The user part of an authority, and what follows the last at sign in it. -/
def takeUser (special : Bool) (cs : List Char) : Except Fault (String × Option String × List Char) :=
  let authority := cs.takeWhile fun c => !endsAuthority special c
  match Text.splitOnce? '@' authority.reverse with
  | none => .ok ("", none, cs)
  | some (_, user) =>
    let user := user.reverse
    let rest := cs.drop (user.length + 1)
    if user.isEmpty then
      match rest with
      | c :: _ => if endsAuthority special c then .error .emptyHost else .ok ("", none, rest)
      | [] => .ok ("", none, rest)
    else
      let (name, password) := match Text.splitOnce? ':' user with
        | some (a, []) => (a, none)
        | some (a, b) => (a, some b)
        | none => (user, none)
      .ok (Percent.encode Percent.inUser name, password.map (Percent.encode Percent.inUser), rest)

def takeAuthority (scheme : String) (cs : List Char) : Except Fault (Authority × List Char) := do
  let special := isSpecial scheme
  let (username, password, cs) ← takeUser special cs
  let (hostChars, rest) := takeHost special false cs
  if special ∧ hostChars.isEmpty then throw .emptyHost
  let host ← if special then specialHost hostChars else opaqueHost hostChars
  if host.isEmpty ∧ rest.head? = some ':' then throw .emptyHost
  let (port, rest) ← match rest with
    | ':' :: rest => takePort rest
    | rest => .ok (none, rest)
  if host.isEmpty ∧ ¬ (username.isEmpty ∧ password.isNone) then throw .emptyHost
  pure (⟨username, password, host, port.filter fun p => defaultPort? scheme ≠ some p⟩, rest)

/-- Puts the parts together. The path is given by what stands before the query; it is missing where a
scheme of its own has an authority only. -/
def assemble (scheme : String) (authority : Option Authority) (cs : List Char) : Url :=
  let (front, query, fragment) := splitTail cs
  let path := match front with
    | [] => if isSpecial scheme then "/" else ""
    | c :: rest => pathText scheme (if isSlash (isSpecial scheme) c then rest else c :: rest)
  ⟨scheme, authority, path, query.map (Percent.encode (Percent.inQuery (isSpecial scheme))),
    fragment.map (Percent.encode Percent.inFragment)⟩

/-- A URL whose path is one text without levels. -/
def assembleOpaque (scheme : String) (cs : List Char) : Url :=
  let (front, query, fragment) := splitTail cs
  ⟨scheme, none, Percent.encode Percent.isControl front,
    query.map (Percent.encode (Percent.inQuery false)), fragment.map (Percent.encode Percent.inFragment)⟩

def Authority.ofHost (host : String) : Authority := ⟨"", none, host, none⟩

/-- A file: the host may be missing or be this machine, and a drive in its place begins the path. -/
def parseFile (cs : List Char) : Except Fault Url :=
  match cs with
  | a :: b :: rest =>
    if isSlash true a && isSlash true b then
      let hostChars := rest.takeWhile fun c => !endsAuthority true c
      if isDrive hostChars then .ok (assemble "file" (some (.ofHost "")) rest)
      else if hostChars.isEmpty then .ok (assemble "file" (some (.ofHost "")) rest)
      else do
        let host ← specialHost hostChars
        let host := if host = "localhost" then "" else host
        let u := assemble "file" (some (.ofHost host)) (rest.drop hostChars.length)
        let first := (Text.splitAll '/' (u.path.toList.drop 1)).headD []
        pure (if isNormalDrive first then { u with authority := some (.ofHost "") } else u)
    else .ok (assemble "file" (some (.ofHost "")) cs)
  | cs => .ok (assemble "file" (some (.ofHost "")) cs)

def parse (text : String) : Except Fault Url :=
  match splitScheme? (clean text) with
  | none => .error .relative
  | some (scheme, rest) =>
    if scheme = "file" then parseFile rest
    else if isSpecial scheme then do
      let (authority, rest) ← takeAuthority scheme (rest.dropWhile (isSlash true))
      pure (assemble scheme (some authority) rest)
    else
      match rest with
      | '/' :: '/' :: rest => do
        let (authority, rest) ← takeAuthority scheme rest
        pure (assemble scheme (some authority) rest)
      | '/' :: _ => .ok (assemble scheme none rest)
      | _ => .ok (assembleOpaque scheme rest)

/-- What identifies the party behind a URL: its scheme, host and port, or nothing that can be told
apart. The origin of a blob is that of the URL it names; `fuel` bounds how often one names another. -/
def originOf : Nat → Url → String
  | 0, _ => "null"
  | fuel + 1, u =>
    if u.scheme = "blob" then
      match parse u.path with
      | .ok inner => originOf fuel inner
      | .error _ => "null"
    else if isSpecial u.scheme ∧ u.scheme ≠ "file" then
      match u.authority with
      | some a => u.scheme ++ "://" ++ a.host ++ portText a.port
      | none => "null"
    else "null"

def origin (u : Url) : String :=
  originOf (u.path.length + 1) u

end AccountSync.Url
