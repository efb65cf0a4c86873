import AccountSync.Text.Utf8

/-!
Percent encoding: the characters of a set, and everything past ASCII, as the hexadecimal digits of
their bytes. Each set contains the one before it.
-/

set_option autoImplicit false
set_option relaxedAutoImplicit false

namespace AccountSync.Url.Percent

def isControl (c : Char) : Bool :=
  c.toNat < 32 || c.toNat = 127

def inFragment (c : Char) : Bool :=
  isControl c || [' ', '"', '<', '>', '\x60'].contains c

/-- What is encoded in the query of a URL; an apostrophe only where the scheme is special. -/
def inQuery (special : Bool) (c : Char) : Bool :=
  isControl c || [' ', '"', '#', '<', '>'].contains c || (special && c = '\'')

def inPath (c : Char) : Bool :=
  inFragment c || ['#', '?', '\x7b', '\x7d'].contains c

def inUser (c : Char) : Bool :=
  inPath c || ['/', ':', ';', '=', '@', '[', '\\', ']', '^', '|'].contains c

def digit (n : Nat) : Char :=
  if n < 10 then Char.ofNat (48 + n) else Char.ofNat (55 + n)

def encodeChar (set : Char → Bool) (c : Char) : List Char :=
  if set c || 128 ≤ c.toNat then
    (String.utf8EncodeChar c).flatMap fun b => ['%', digit (b.toNat / 16), digit (b.toNat % 16)]
  else [c]

def encode (set : Char → Bool) (cs : List Char) : String :=
  String.ofList (cs.flatMap (encodeChar set))

def value? (b : UInt8) : Option UInt8 :=
  if 48 ≤ b ∧ b ≤ 57 then some (b - 48)
  else if 65 ≤ b ∧ b ≤ 70 then some (b - 55)
  else if 97 ≤ b ∧ b ≤ 102 then some (b - 87)
  else none

/-- Replaces every percent sign with two digits by the byte that they stand for. -/
def decode : List UInt8 → List UInt8
  | 37 :: a :: b :: rest =>
    match value? a, value? b with
    | some x, some y => (16 * x + y) :: decode rest
    | _, _ => 37 :: decode (a :: b :: rest)
  | b :: rest => b :: decode rest
  | [] => []
termination_by bs => bs.length

end AccountSync.Url.Percent
