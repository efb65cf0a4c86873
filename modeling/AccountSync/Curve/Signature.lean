import AccountSync.Curve.Basic
import AccountSync.Hash.Sha512

/-!
Signatures on the curve. The signer's numbers come from digests of the seed and the message, so a
signature is a function of both. A signature is accepted if recomputing its first half from the second
gives the same bytes; the second half has to be below the order of the group.
-/

set_option autoImplicit false
set_option relaxedAutoImplicit false

namespace AccountSync.Curve

open Point (littleEndian ofLittleEndian)

def order : Nat := Nat.pow 2 252 + 27742317777372353535851937790883648493

/-- The number that a digest stands for, modulo the order of the group. -/
def digestScalar (bs : List UInt8) : Nat :=
  ofLittleEndian (Hash.Sha512.digest bs) % order

/-- The signer's secret number: the first half of the seed's digest with its lowest three bits and the
highest cleared and the next set. -/
def secretScalar (seed : List UInt8) : Nat :=
  let n := ofLittleEndian ((Hash.Sha512.digest seed).take 32)
  n % Nat.pow 2 254 / 8 * 8 + Nat.pow 2 254

def publicKey (seed : List UInt8) : List UInt8 :=
  (Point.base.times (secretScalar seed)).encode

def sign (seed message : List UInt8) : List UInt8 :=
  let a := publicKey seed
  let r := digestScalar ((Hash.Sha512.digest seed).drop 32 ++ message)
  let first := (Point.base.times r).encode
  let k := digestScalar (first ++ a ++ message)
  first ++ littleEndian 32 ((r + k * secretScalar seed) % order)

inductive Refusal
  | keyNotOnCurve
  | length
  | scalar
  | equation
  deriving DecidableEq, Repr

def Refusal.message : Refusal → String
  | .keyNotOnCurve => "signature error: Cannot decompress Edwards point"
  | .length => "signature error"
  | .scalar => "signature error: Cannot use scalar with high-bit set"
  | .equation => "signature error: Verification equation was not satisfied"

def verify (key message signature : List UInt8) : Except Refusal Unit :=
  match Point.decode? key with
  | none => .error .keyNotOnCurve
  | some a =>
    if signature.length ≠ 64 then .error .length
    else
      let first := signature.take 32
      let s := ofLittleEndian (signature.drop 32)
      if order ≤ s then .error .scalar
      else
        let k := digestScalar (first ++ key ++ message)
        let expected := (Point.base.times s).add (a.neg.times k)
        if expected.encode = first then .ok () else .error .equation

theorem length_littleEndian (n k : Nat) : (littleEndian n k).length = n := by
  induction n generalizing k with
  | zero => rfl
  | succ n ih => simp [littleEndian, ih]

theorem length_encode (p : Point) : p.encode.length = 32 :=
  length_littleEndian ..

theorem length_publicKey (seed : List UInt8) : (publicKey seed).length = 32 :=
  length_encode _

end AccountSync.Curve
