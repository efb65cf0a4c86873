/-!
Hexadecimal text: two digits a byte, written in lower case, read in either case.
-/

set_option autoImplicit false
set_option relaxedAutoImplicit false

namespace AccountSync.Encoding.Hex

def digit (n : Nat) : Char :=
  if n < 10 then Char.ofNat (48 + n) else Char.ofNat (87 + n)

def value? (c : Char) : Option Nat :=
  if '0' ≤ c ∧ c ≤ '9' then some (c.toNat - 48)
  else if 'a' ≤ c ∧ c ≤ 'f' then some (c.toNat - 87)
  else if 'A' ≤ c ∧ c ≤ 'F' then some (c.toNat - 55)
  else none

/-- The two digits of a byte, high half first. -/
def pair (b : UInt8) : List Char :=
  [digit (b.toNat / 16), digit (b.toNat % 16)]

def encode (bs : List UInt8) : String :=
  String.ofList (bs.flatMap pair)

/-- Reads pairs of digits; an odd digit left over or any other character is refused. -/
def decodeChars? : List Char → Option (List UInt8)
  | [] => some []
  | [_] => none
  | a :: b :: rest => do
    let high ← value? a
    let low ← value? b
    let bs ← decodeChars? rest
    pure (UInt8.ofNat (16 * high + low) :: bs)

theorem value?_digit {n : Nat} (h : n < 16) : value? (digit n) = some n := by
  have all : ∀ m < 16, value? (digit m) = some m := by decide
  exact all n h

theorem decodeChars?_flatMap_pair (bs : List UInt8) : decodeChars? (bs.flatMap pair) = some bs := by
  induction bs with
  | nil => rfl
  | cons b bs ih =>
    have hb := b.toNat_lt
    have high := value?_digit (show b.toNat / 16 < 16 by omega)
    have low := value?_digit (show b.toNat % 16 < 16 by omega)
    have hsum : 16 * (b.toNat / 16) + b.toNat % 16 = b.toNat := by omega
    show decodeChars? (digit (b.toNat / 16) :: digit (b.toNat % 16) :: bs.flatMap pair) = _
    simp only [decodeChars?, high, low, ih, Option.bind_eq_bind, Option.bind_some, hsum, UInt8.ofNat_toNat]
    rfl

def decode? (text : String) : Option (List UInt8) :=
  decodeChars? text.toList

theorem decode?_encode (bs : List UInt8) : decode? (encode bs) = some bs := by
  simp [decode?, encode, decodeChars?_flatMap_pair]

end AccountSync.Encoding.Hex
