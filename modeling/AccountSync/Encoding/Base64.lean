import AccountSync.Text.Utf8

/-!
Base64 in two dialects: the standard alphabet with padding, and the URL-safe alphabet without. Only
the second is read here, and strictly: no padding, and no bits set beyond the last whole byte, so
that a byte string has one written form.
-/

set_option autoImplicit false
set_option relaxedAutoImplicit false

namespace AccountSync.Encoding.Base64

/-- The two characters in which the alphabets differ, and whether a short last group is padded. -/
structure Dialect where
  sixtyTwo : Char
  sixtyThree : Char
  padded : Bool

/-- Letters, digits, plus and slash, padded to groups of four. -/
def standard : Dialect := ⟨'+', '/', true⟩

/-- Letters, digits, hyphen and underscore, without padding. -/
def urlSafe : Dialect := ⟨'-', '_', false⟩

def Dialect.symbol (d : Dialect) (n : Nat) : Char :=
  if n < 26 then Char.ofNat (65 + n)
  else if n < 52 then Char.ofNat (71 + n)
  else if n < 62 then Char.ofNat (n - 4)
  else if n = 62 then d.sixtyTwo
  else d.sixtyThree

def Dialect.value? (d : Dialect) (b : UInt8) : Option Nat :=
  let n := b.toNat
  if 65 ≤ n ∧ n ≤ 90 then some (n - 65)
  else if 97 ≤ n ∧ n ≤ 122 then some (n - 71)
  else if 48 ≤ n ∧ n ≤ 57 then some (n + 4)
  else if n = d.sixtyTwo.toNat then some 62
  else if n = d.sixtyThree.toNat then some 63
  else none

def Dialect.padding (d : Dialect) (n : Nat) : List Char :=
  if d.padded then List.replicate n '=' else []

/-- Three bytes give four characters; one or two left over give two or three. -/
def encodeChars (d : Dialect) : List UInt8 → List Char
  | [] => []
  | [a] =>
    let n := a.toNat * 16
    d.symbol (n / 64) :: d.symbol (n % 64) :: d.padding 2
  | [a, b] =>
    let n := (a.toNat * 256 + b.toNat) * 4
    d.symbol (n / 4096) :: d.symbol (n / 64 % 64) :: d.symbol (n % 64) :: d.padding 1
  | a :: b :: c :: rest =>
    let n := (a.toNat * 256 + b.toNat) * 256 + c.toNat
    d.symbol (n / 262144) :: d.symbol (n / 4096 % 64) :: d.symbol (n / 64 % 64) :: d.symbol (n % 64)
      :: encodeChars d rest

def encode (d : Dialect) (bs : List UInt8) : String :=
  String.ofList (encodeChars d bs)

/-- Why a text is no unpadded encoding. Offsets count bytes of the text. -/
inductive Fault
  | symbol (byte : UInt8) (offset : Nat)
  | length (count : Nat)
  | lastSymbol (byte : UInt8) (offset : Nat)
  | padding
  deriving DecidableEq, Repr

def Fault.message : Fault → String
  | .symbol b offset => s!"Invalid symbol {b.toNat}, offset {offset}."
  | .length n => s!"Invalid input length: {n}"
  | .lastSymbol b offset => s!"Invalid last symbol {b.toNat}, offset {offset}."
  | .padding => "Invalid padding"

def pad : UInt8 := 61

/-- The value of a byte, or the fault of finding it at this offset. -/
def Dialect.valueAt (d : Dialect) (offset : Nat) (b : UInt8) : Except Fault Nat :=
  match d.value? b with
  | some n => .ok n
  | none => .error (.symbol b offset)

/-- The values of the last group, up to four bytes, and whether padding follows them. Padding is no
symbol before the third place of the group, nor before a symbol. -/
def lastGroup (d : Dialect) (offset : Nat) :
    Nat → Option Nat → List UInt8 → Except Fault (List Nat × Bool)
  | _, padded, [] => .ok ([], padded.isSome)
  | place, padded, b :: rest =>
    if b = pad then
      if place < 2 then .error (.symbol b (offset + place))
      else lastGroup d offset (place + 1) (padded <|> some place) rest
    else
      match padded with
      | some first => .error (.symbol pad (offset + first))
      | none => do
        let n ← d.valueAt (offset + place) b
        let (ns, p) ← lastGroup d offset (place + 1) none rest
        pure (n :: ns, p)

def closeGroup (d : Dialect) (offset : Nat) : List Nat → Except Fault (List UInt8)
  | [a, b] =>
    if b % 16 = 0 then .ok [UInt8.ofNat (a * 4 + b / 16)]
    else .error (.lastSymbol (UInt8.ofNat (d.symbol b).toNat) (offset + 1))
  | [a, b, c] =>
    if c % 4 = 0 then .ok [UInt8.ofNat (a * 4 + b / 16), UInt8.ofNat (b % 16 * 16 + c / 4)]
    else .error (.lastSymbol (UInt8.ofNat (d.symbol c).toNat) (offset + 2))
  | [a, b, c, e] =>
    .ok [UInt8.ofNat (a * 4 + b / 16), UInt8.ofNat (b % 16 * 16 + c / 4), UInt8.ofNat (c % 4 * 64 + e)]
  | ns => .error (.length (offset + ns.length))

/-- Reads whole groups of four, and the last one with its checks. -/
def decodeGroups (d : Dialect) (offset : Nat) : List UInt8 → Except Fault (List UInt8)
  | [] => .ok []
  | a :: b :: c :: e :: next :: rest => do
    let a ← d.valueAt offset a
    let b ← d.valueAt (offset + 1) b
    let c ← d.valueAt (offset + 2) c
    let e ← d.valueAt (offset + 3) e
    let bs ← decodeGroups d (offset + 4) (next :: rest)
    pure (UInt8.ofNat (a * 4 + b / 16) :: UInt8.ofNat (b % 16 * 16 + c / 4)
      :: UInt8.ofNat (c % 4 * 64 + e) :: bs)
  | last => do
    let (ns, padded) ← lastGroup d offset 0 none last
    if ns.length < 2 then .error (.length (offset + ns.length))
    else if padded then .error .padding
    else closeGroup d offset ns

/-- Reads text without padding. A single byte too many is reported first when it is no symbol, as a
line break at the end is. -/
def decode (d : Dialect) (text : List UInt8) : Except Fault (List UInt8) :=
  match text.getLast? with
  | some b =>
    if text.length % 4 = 1 ∧ b ≠ pad ∧ d.value? b = none then .error (.symbol b (text.length - 1))
    else decodeGroups d 0 text
  | none => .ok []

end AccountSync.Encoding.Base64
