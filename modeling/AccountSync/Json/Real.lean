/-!
Binary floating-point numbers in JSON text. `read?` scales a significand of at most 64 bits by a power
of ten, one rounding for each step, and refuses what is too large; `text` writes the fewest digits
that denote the same number to anyone who rounds to nearest, and of those the digits nearest to it.
-/

set_option autoImplicit false
set_option relaxedAutoImplicit false

namespace AccountSync.Json.Real

def tenTo (n : Nat) : Float :=
  Float.ofScientific 1 false n

/-- Brings an exponent that is below the table of powers within it, 308 at a time. -/
def shrink : Nat → Float → Nat → Float
  | 0, f, e => f / tenTo e
  | fuel + 1, f, e => if e ≤ 308 ∨ f == 0.0 then f / tenTo e else shrink fuel (f / tenTo 308) (e - 308)

/-- The number `significand * 10 ^ exponent`, or `none` if it is too large. A significand of 64 bits
is zero or beyond the range after three steps of 308. -/
def scaled? (significand : Nat) (exponent : Int) : Option Float :=
  let f := significand.toFloat
  if exponent < 0 then
    some (shrink 3 f exponent.natAbs)
  else if significand = 0 then some f
  else if exponent ≤ 308 then
    let g := f * tenTo exponent.toNat
    if g.isInf then none else some g
  else none

/-- The digits of a numeral as a significand of 64 bits and a power of ten: digits that no longer fit
are dropped, those before the point after counting them. -/
def accumulate (whole fraction : List Nat) : Nat × Int :=
  let rec take (n : Nat) : List Nat → Nat × List Nat
    | [] => (n, [])
    | d :: ds => if n * 10 + d < UInt64.size then take (n * 10 + d) ds else (n, d :: ds)
  let (n, left) := take 0 whole
  let (m, rest) := take n fraction
  (m, (left.length : Int) - (fraction.length - rest.length : Nat))

/-- Reads a numeral that is no whole number. -/
def read? (negative : Bool) (whole fraction : List Nat) (exponent : Int) : Option UInt64 := do
  let (m, e) := accumulate whole fraction
  let f ← scaled? m (e + exponent)
  pure (if negative then -f else f).toBits

/-- The weight of the leading bit of a significand, which is not stored. -/
def leadingBit : Nat := 0x10000000000000

/-- The value of a positive finite number as `m * 2 ^ q`. -/
def decompose (bits : UInt64) : Nat × Int :=
  let e : Nat := bits.toNat / leadingBit % 2048
  let m : Nat := bits.toNat % leadingBit
  if e = 0 then (m, -1074) else (m + leadingBit, (e : Int) - 1075)

/-- The decimal `d * 10 ^ p`, compared with `m * 2 ^ q` scaled by `4`, as a pair of naturals. -/
def compareScaled (d : Nat) (p : Int) (m : Nat) (q : Int) : Nat × Nat :=
  let left := d * Nat.pow 10 p.toNat * Nat.pow 2 (-q).toNat
  let right := m * Nat.pow 2 q.toNat * Nat.pow 10 (-p).toNat
  (left, right)

/-- Whether `d * 10 ^ p` rounds to nearest, ties to even, to `m * 2 ^ q`. -/
def roundsTo (d : Nat) (p : Int) (m : Nat) (q : Int) : Bool :=
  -- four times the neighbours' midpoints, in units of a quarter of the last place
  let low := if m = leadingBit ∧ -1074 < q then 4 * m - 1 else 4 * m - 2
  let high := 4 * m + 2
  let (a, b) := compareScaled d p low (q - 2)
  let (c, e) := compareScaled d p high (q - 2)
  if m % 2 = 0 then b ≤ a && c ≤ e else b < a && c < e

/-- A number with the given power of ten as its unit: the whole units in it, and whether what is left
is less than, equal to or more than half a unit. -/
def units (p : Int) (m : Nat) (q : Int) : Nat × Ordering :=
  let num := m * Nat.pow 2 q.toNat * Nat.pow 10 (-p).toNat
  let den := Nat.pow 2 (-q).toNat * Nat.pow 10 p.toNat
  (num / den, compare (2 * (num % den)) den)

/-- The multiples of a power of ten on either side of a number, the nearer one first; of two at the same
distance the even one. -/
def neighbours (p : Int) (m : Nat) (q : Int) : List Nat :=
  match units p m q with
  | (d, .lt) => [d, d + 1]
  | (d, .eq) => if d % 2 = 0 then [d, d + 1] else [d + 1, d]
  | (d, .gt) => [d + 1, d]

/-- The shortest decimal that rounds to `m * 2 ^ q`, looked for from the coarsest grid on. -/
def shortest (m : Nat) (q : Int) : Nat × Int :=
  let rec go : Nat → Int → Nat × Int
    | 0, p => ((units p m q).1, p)
    | n + 1, p =>
      match (neighbours p m q).find? fun d => d ≠ 0 && roundsTo d p m q with
      | some d => (d, p)
      | none => go n (p - 1)
  go 640 309

/-- Drops zeros at the end of a decimal, raising its power of ten. -/
def trimZeros : Nat → Nat → Int → Nat × Int
  | 0, d, p => (d, p)
  | fuel + 1, d, p => if d % 10 = 0 ∧ d ≠ 0 then trimZeros fuel (d / 10) (p + 1) else (d, p)

def exponent (e : Int) : String :=
  (if e < 0 then "e-" else "e+") ++ toString e.natAbs

/-- Positional from 10^-5 up to below 10^16 and always with a digit after the point; otherwise a
single digit before the point and an exponent. -/
def layout (d : Nat) (p : Int) : String :=
  let ds := (toString d).toList
  let point : Int := ds.length + p
  if 0 ≤ p ∧ point ≤ 16 then String.ofList (ds ++ List.replicate p.toNat '0') ++ ".0"
  else if 0 < point ∧ point ≤ 16 then
    String.ofList (ds.take point.toNat ++ '.' :: ds.drop point.toNat)
  else if -5 < point ∧ point ≤ 0 then
    "0." ++ String.ofList (List.replicate (-point).toNat '0' ++ ds)
  else
    let mantissa := match ds with
      | [c] => String.ofList [c]
      | c :: rest => String.ofList (c :: '.' :: rest)
      | [] => ""
    mantissa ++ exponent (point - 1)

def text (bits : UInt64) : String :=
  let sign := if bits.toNat < 0x8000000000000000 then "" else "-"
  let (m, q) := decompose (UInt64.ofNat (bits.toNat % 0x8000000000000000))
  if m = 0 then sign ++ "0.0"
  else
    let (d, p) := shortest m q
    let (d, p) := trimZeros 20 d p
    sign ++ layout d p

end AccountSync.Json.Real
