import AccountSync.Encoding.Hex

/-!
Tables written as text: rows of hexadecimal numbers, with a blank between two numbers and a comma between
two rows. A table can give a set of code points by its intervals, both ends included.
-/

set_option autoImplicit false
set_option relaxedAutoImplicit false

namespace AccountSync.Text

def Intervals.contains (intervals : List (Nat × Nat)) (n : Nat) : Bool :=
  intervals.any fun r => r.1 ≤ n && n ≤ r.2

namespace Rows

/-- What has been read: whole rows, and the row and the number at hand. The latest come first. -/
structure Reading where
  rows : List (List Nat) := []
  row : List Nat := []
  number : Option Nat := none

namespace Reading

def endNumber (r : Reading) : Reading :=
  match r.number with
  | some n => { r with row := n :: r.row, number := none }
  | none => r

def endRow (r : Reading) : Reading :=
  { rows := r.endNumber.row.reverse :: r.rows }

def next (r : Reading) (c : Char) : Reading :=
  match Encoding.Hex.value? c with
  | some d => { r with number := some (16 * r.number.getD 0 + d) }
  | none => if c = ',' then r.endRow else r.endNumber

end Reading

def parse (table : String) : List (List Nat) :=
  (table.toList.foldl Reading.next {}).endRow.rows.reverse

/-- The interval that a row gives by its ends, or by the one number in it. -/
def interval? : List Nat → Option (Nat × Nat)
  | [n] => some (n, n)
  | [first, last] => some (first, last)
  | _ => none

def intervals (table : String) : List (Nat × Nat) :=
  (parse table).filterMap interval?

end Rows

end AccountSync.Text
