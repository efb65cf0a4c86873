import AccountSync.Hash.Sha256

/-!
Keyed digests over SHA-256, and keys derived from a secret by extracting and expanding. Main
statements: the lengths of what is produced.
-/

set_option autoImplicit false
set_option relaxedAutoImplicit false

namespace AccountSync.Hash

/-- A key as long as a block: longer ones are digested first, shorter ones end in zeros. -/
def blockKey (key : List UInt8) : List UInt8 :=
  let k := if key.length ≤ 64 then key else Sha256.digest key
  k ++ List.replicate (64 - k.length) 0

def hmac (key message : List UInt8) : List UInt8 :=
  let k := blockKey key
  Sha256.digest (k.map (· ^^^ 0x5c) ++ Sha256.digest (k.map (· ^^^ 0x36) ++ message))

/-- The blocks of derived key material that follow a block. -/
def expandFrom (prk info : List UInt8) : Nat → UInt8 → List UInt8 → List UInt8
  | 0, _, _ => []
  | n + 1, i, last =>
    let block := hmac prk (last ++ info ++ [i])
    block ++ expandFrom prk info n (i + 1) block

/-- `32 * blocks` bytes derived from a secret, for one purpose. -/
def derive (blocks : Nat) (salt secret info : List UInt8) : List UInt8 :=
  expandFrom (hmac salt secret) info blocks 1 []

theorem length_hmac (key message : List UInt8) : (hmac key message).length = 32 := rfl

theorem length_expandFrom (prk info : List UInt8) (n : Nat) (i : UInt8) (last : List UInt8) :
    (expandFrom prk info n i last).length = 32 * n := by
  induction n generalizing i last with
  | zero => rfl
  | succ n ih => simp [expandFrom, ih, length_hmac]; omega

theorem length_derive (blocks : Nat) (salt secret info : List UInt8) :
    (derive blocks salt secret info).length = 32 * blocks :=
  length_expandFrom ..

end AccountSync.Hash
