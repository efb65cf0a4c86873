/-!
Decimal text of whole numbers: `digits` writes the shortest form, `natural?` and `integer?` read any
run of digits behind an optional sign.
-/

set_option autoImplicit false
set_option relaxedAutoImplicit false

namespace AccountSync.Text.Decimal

/-- The number that a run of digits denotes, or `none` if it is empty or holds anything else. -/
def digits? (cs : List Char) : Option Nat :=
  if cs.isEmpty ∨ ¬ cs.all Char.isDigit then none
  else some (cs.foldl (fun n c => 10 * n + (c.toNat - 48)) 0)

/-- Reads digits behind an optional plus sign, below a bound. -/
def natural? (bound : Nat) (text : String) : Option Nat :=
  let n? := match text.toList with
    | '+' :: cs => digits? cs
    | cs => digits? cs
  n?.filter (· < bound)

/-- Reads digits behind an optional sign, as far as 64 bits with a sign go. -/
def integer? (text : String) : Option Int :=
  let n? : Option Int := match text.toList with
    | '+' :: cs => (digits? cs).map Int.ofNat
    | '-' :: cs => (digits? cs).map fun n => -Int.ofNat n
    | cs => (digits? cs).map Int.ofNat
  n?.filter fun n => -0x8000000000000000 ≤ n ∧ n < 0x8000000000000000

def word? (text : String) : Option Nat :=
  natural? UInt64.size text

end AccountSync.Text.Decimal
