import AccountSync.Encoding.Hex
import AccountSync.Json.Shape

/-!
Keys of 32 bytes, written as 64 hexadecimal digits.
-/

set_option autoImplicit false
set_option relaxedAutoImplicit false

namespace AccountSync

structure Key32 where
  bytes : List UInt8
  length_eq : bytes.length = 32
  deriving DecidableEq

namespace Key32

def ofBytes? (bs : List UInt8) : Option Key32 :=
  if h : bs.length = 32 then some ⟨bs, h⟩ else none

/-- Reads hexadecimal digits of either case. -/
def ofHex? (text : String) : Option Key32 :=
  (Encoding.Hex.decode? text).bind ofBytes?

def hex (k : Key32) : String :=
  Encoding.Hex.encode k.bytes

theorem ofBytes?_bytes (k : Key32) : ofBytes? k.bytes = some k := by
  simp [ofBytes?, k.length_eq]

theorem ofHex?_hex (k : Key32) : ofHex? k.hex = some k := by
  simp [ofHex?, hex, Encoding.Hex.decode?_encode, ofBytes?_bytes]

def zero : Key32 := ⟨List.replicate 32 0, rfl⟩

instance : Inhabited Key32 := ⟨zero⟩

/-- Combines two keys bit by bit; combining with the same key again undoes it. -/
def xor (a b : Key32) : Key32 :=
  ⟨List.zipWith (· ^^^ ·) a.bytes b.bytes, by simp [a.length_eq, b.length_eq]⟩

def read : Json.Reader Key32 := fun t =>
  (Json.Reader.string t).bind ofHex?

def json (k : Key32) : Json := .string k.hex

end Key32

end AccountSync
