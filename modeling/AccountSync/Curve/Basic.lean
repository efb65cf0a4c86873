/-!
The twisted Edwards curve `-x² + y² = 1 + d x² y²` over the integers modulo `2²⁵⁵ - 19`, in extended
coordinates. Its addition law has no exceptional cases, so `times` doubles and adds with one
formula. `encode` and `decode?` are the 32-byte form of a point: `y`, and the parity of `x` on top.
-/

set_option autoImplicit false
set_option relaxedAutoImplicit false

namespace AccountSync.Curve

def prime : Nat := Nat.pow 2 255 - 19

def add (a b : Nat) : Nat := (a + b) % prime

def sub (a b : Nat) : Nat := (a + prime - b % prime) % prime

def mul (a b : Nat) : Nat := a * b % prime

/-- The bits of a number, most significant first, in a given number of places. -/
def bits : Nat → Nat → List Bool
  | 0, _ => []
  | n + 1, k => k.testBit n :: bits n k

/-- A power with an exponent of at most 255 bits. -/
def pow (a e : Nat) : Nat :=
  (bits 255 e).foldl (fun r b => let s := mul r r; if b then mul s a else s) 1

def inverse (a : Nat) : Nat := pow a (prime - 2)

/-- The constant of the curve, `-121665 / 121666`. -/
def d : Nat := mul (prime - 121665) (inverse 121666)

def rootOfMinusOne : Nat := pow 2 ((prime - 1) / 4)

/-- A point with `x = X / Z`, `y = Y / Z` and `x y = T / Z`. -/
structure Point where
  x : Nat
  y : Nat
  z : Nat
  t : Nat
  deriving DecidableEq, Repr

namespace Point

def zero : Point := ⟨0, 1, 1, 0⟩

def add (p q : Point) : Point :=
  let a := mul (sub p.y p.x) (sub q.y q.x)
  let b := mul (Curve.add p.y p.x) (Curve.add q.y q.x)
  let c := mul (mul p.t (2 * d)) q.t
  let e := mul (2 * p.z) q.z
  let f := sub b a
  let g := sub e c
  let h := Curve.add e c
  let i := Curve.add b a
  ⟨mul f g, mul h i, mul g h, mul f i⟩

/-- The point mirrored at the `y` axis. -/
def neg (p : Point) : Point :=
  ⟨sub 0 p.x, p.y, p.z, sub 0 p.t⟩

/-- A multiple of a point by a number of at most 256 bits. -/
def times (p : Point) (k : Nat) : Point :=
  (bits 256 k).foldl (fun r b => let s := add r r; if b then add s p else s) zero

/-- The bytes of a number, least significant first, in a given number of places. -/
def littleEndian : Nat → Nat → List UInt8
  | 0, _ => []
  | n + 1, k => UInt8.ofNat k :: littleEndian n (k / 256)

/-- The number that bytes stand for, least significant first. -/
def ofLittleEndian (bs : List UInt8) : Nat :=
  bs.foldr (fun b n => b.toNat + 256 * n) 0

/-- The weight of the highest bit of 32 bytes. -/
def signBit : Nat := Nat.pow 2 255

def encode (p : Point) : List UInt8 :=
  let zInverse := inverse p.z
  let x := mul p.x zInverse
  let y := mul p.y zInverse
  littleEndian 32 (y + x % 2 * signBit)

/-- A root of `u / v` that is an even number, if there is one. -/
def evenRoot? (u v : Nat) : Option Nat :=
  let v3 := mul (mul v v) v
  let v7 := mul (mul v3 v3) v
  let r := mul (mul u v3) (pow (mul u v7) ((prime - 5) / 8))
  let check := mul v (mul r r)
  let root? :=
    if check = u % prime then some r
    else if check = sub 0 u then some (mul r rootOfMinusOne)
    else none
  root?.map fun r => if r % 2 = 0 then r else sub 0 r

/-- The point that 32 bytes stand for. A `y` that is not below the prime is reduced, and the sign of a
zero `x` is overlooked. -/
def decode? (bs : List UInt8) : Option Point :=
  let n := ofLittleEndian bs
  let y := n % signBit % prime
  let y2 := mul y y
  (evenRoot? (sub y2 1) (Curve.add (mul d y2) 1)).map fun x =>
    let x := if n / signBit = 0 then x else sub 0 x
    ⟨x, y, 1, mul x y⟩

/-- The generator: `y` is four fifths and `x` is even. -/
def base : Point :=
  let y := mul 4 (inverse 5)
  let y2 := mul y y
  let x := (evenRoot? (sub y2 1) (Curve.add (mul d y2) 1)).getD 0
  ⟨x, y, 1, mul x y⟩

end Point

end AccountSync.Curve
