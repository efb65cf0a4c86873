/-!
The SHA-256 digest of a byte string. The words of a block's schedule are kept as a window of sixteen
that moves on by one each round.
-/

set_option autoImplicit false
set_option relaxedAutoImplicit false

namespace AccountSync.Hash.Sha256

/-- The working variables of the compression function, and the chaining value between blocks. -/
structure Words where
  a : UInt32
  b : UInt32
  c : UInt32
  d : UInt32
  e : UInt32
  f : UInt32
  g : UInt32
  h : UInt32

/-- The chaining value before the first block: fractions of square roots of primes. -/
def initial : Words :=
  ⟨0x6a09e667, 0xbb67ae85, 0x3c6ef372, 0xa54ff53a, 0x510e527f, 0x9b05688c, 0x1f83d9ab, 0x5be0cd19⟩

/-- The round constants: fractions of cube roots of primes. -/
def constants : List UInt32 := [
    0x428a2f98, 0x71374491, 0xb5c0fbcf, 0xe9b5dba5, 0x3956c25b, 0x59f111f1, 0x923f82a4, 0xab1c5ed5,
    0xd807aa98, 0x12835b01, 0x243185be, 0x550c7dc3, 0x72be5d74, 0x80deb1fe, 0x9bdc06a7, 0xc19bf174,
    0xe49b69c1, 0xefbe4786, 0x0fc19dc6, 0x240ca1cc, 0x2de92c6f, 0x4a7484aa, 0x5cb0a9dc, 0x76f988da,
    0x983e5152, 0xa831c66d, 0xb00327c8, 0xbf597fc7, 0xc6e00bf3, 0xd5a79147, 0x06ca6351, 0x14292967,
    0x27b70a85, 0x2e1b2138, 0x4d2c6dfc, 0x53380d13, 0x650a7354, 0x766a0abb, 0x81c2c92e, 0x92722c85,
    0xa2bfe8a1, 0xa81a664b, 0xc24b8b70, 0xc76c51a3, 0xd192e819, 0xd6990624, 0xf40e3585, 0x106aa070,
    0x19a4c116, 0x1e376c08, 0x2748774c, 0x34b0bcb5, 0x391c0cb3, 0x4ed8aa4a, 0x5b9cca4f, 0x682e6ff3,
    0x748f82ee, 0x78a5636f, 0x84c87814, 0x8cc70208, 0x90befffa, 0xa4506ceb, 0xbef9a3f7, 0xc67178f2]

def rotate (x : UInt32) (n : UInt32) : UInt32 :=
  (x >>> n) ||| (x <<< (32 - n))

def round (s : Words) (k w : UInt32) : Words :=
  let big1 := rotate s.e 6 ^^^ rotate s.e 11 ^^^ rotate s.e 25
  let choice := (s.e &&& s.f) ^^^ ((~~~ s.e) &&& s.g)
  let t1 := s.h + big1 + choice + k + w
  let big0 := rotate s.a 2 ^^^ rotate s.a 13 ^^^ rotate s.a 22
  let majority := (s.a &&& s.b) ^^^ (s.a &&& s.c) ^^^ (s.b &&& s.c)
  ⟨t1 + (big0 + majority), s.a, s.b, s.c, s.d + t1, s.e, s.f, s.g⟩

/-- Moves the schedule window on by one word. -/
def slide : List UInt32 → List UInt32
  | w :: rest =>
    let w1 := rest.getD 0 0
    let w9 := rest.getD 8 0
    let w14 := rest.getD 13 0
    let small0 := rotate w1 7 ^^^ rotate w1 18 ^^^ (w1 >>> 3)
    let small1 := rotate w14 17 ^^^ rotate w14 19 ^^^ (w14 >>> 10)
    rest ++ [w + small0 + w9 + small1]
  | [] => []

def rounds : List UInt32 → List UInt32 → Words → Words
  | [], _, s => s
  | k :: ks, window, s => rounds ks (slide window) (round s k (window.headD 0))

/-- Takes one block of sixteen words into the chaining value. -/
def compress (s : Words) (block : List UInt32) : Words :=
  let r := rounds constants block s
  ⟨s.a + r.a, s.b + r.b, s.c + r.c, s.d + r.d, s.e + r.e, s.f + r.f, s.g + r.g, s.h + r.h⟩

def wordBytes (w : UInt32) : List UInt8 :=
  [(w >>> 24).toUInt8, (w >>> 16).toUInt8, (w >>> 8).toUInt8, w.toUInt8]

def words : List UInt8 → List UInt32
  | a :: b :: c :: d :: rest =>
    ((a.toUInt32 <<< 24) ||| (b.toUInt32 <<< 16) ||| (c.toUInt32 <<< 8) ||| d.toUInt32)
      :: words rest
  | _ => []

/-- The message behind its end mark, filled up with zeros to a whole block, its length in bits last. -/
def padded (m : List UInt8) : List UInt8 :=
  let zeros := (64 - (m.length + 8 + 1) % 64) % 64
  m ++ 0x80 :: List.replicate zeros 0 ++ lengthBytes (8 * m.length)
where
  /-- A length in eight bytes. -/
  lengthBytes (n : Nat) : List UInt8 :=
    [56, 48, 40, 32, 24, 16, 8, 0].map fun shift => UInt8.ofNat (n >>> shift)

/-- Takes the blocks of a sequence of words into the chaining value; `n` bounds their number. -/
def absorb : Nat → Words → List UInt32 → Words
  | 0, s, _ => s
  | _ + 1, s, [] => s
  | n + 1, s, ws => absorb n (compress s (ws.take 16)) (ws.drop 16)

def digest (m : List UInt8) : List UInt8 :=
  let ws := words (padded m)
  let s := absorb ws.length initial ws
  [s.a, s.b, s.c, s.d, s.e, s.f, s.g, s.h].flatMap wordBytes

theorem length_wordBytes (w : UInt32) : (wordBytes w).length = 4 := rfl

theorem length_digest (m : List UInt8) : (digest m).length = 32 := rfl

end AccountSync.Hash.Sha256
