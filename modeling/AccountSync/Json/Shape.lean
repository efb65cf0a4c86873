import AccountSync.Json.Tree

/-!
Readers of values off JSON trees. A record is written as an object, its fields in any order and among
any others, or as an array of its fields in order; `slots` finds what stands for each field. A field
that occurs twice is refused, and so is a name that has no text.
-/

set_option autoImplicit false
set_option relaxedAutoImplicit false

namespace AccountSync.Json

abbrev Reader (α : Type) := Tree → Option α

namespace Reader

def string : Reader String
  | .string s => s
  | _ => none

def bool : Reader Bool
  | .bool b => some b
  | _ => none

/-- A whole number without sign below a bound. -/
def below (bound : Nat) : Reader Nat
  | .numeral n => n.whole?.bind fun v => if 0 ≤ v ∧ v < bound then some v.toNat else none
  | _ => none

def word16 : Reader UInt16 := fun t => (below UInt16.size t).map UInt16.ofNat

def word32 : Reader UInt32 := fun t => (below UInt32.size t).map UInt32.ofNat

def word64 : Reader UInt64 := fun t => (below UInt64.size t).map UInt64.ofNat

def nullable {α : Type} (r : Reader α) : Reader (Option α)
  | .null => some none
  | t => (r t).map some

def list {α : Type} (r : Reader α) : Reader (List α)
  | .array ts => ts.mapM r
  | _ => none

/-- What stands under one of the names of a field: nothing, or one value. -/
def lookup (names : List String) (ms : List (Option String × Tree)) : Option (Option Tree) :=
  match ms.filter fun m => m.1.any (names.contains ·) with
  | [] => some none
  | [m] => some (some m.2)
  | _ => none

/-- What stands for each field of a record, the names of each field given. -/
def slots (fields : List (List String)) : Reader (List (Option Tree))
  | .object ms => if ms.all (·.1.isSome) then fields.mapM (lookup · ms) else none
  | .array ts =>
    if ts.length ≤ fields.length then some ((List.range fields.length).map (ts[·]?)) else none
  | _ => none

def required {α : Type} (r : Reader α) (slot : Option Tree) : Option α :=
  slot.bind r

/-- A field that has a value also where it is missing. -/
def withDefault {α : Type} (r : Reader α) (absent : α) : Option Tree → Option α
  | none => some absent
  | some t => r t

/-- A field that may be missing or `null`. -/
def optional {α : Type} (r : Reader α) (slot : Option Tree) : Option (Option α) :=
  withDefault (nullable r) none slot

def ofText {α : Type} (r : Reader α) (text : String) : Option α :=
  (Tree.ofText? text).bind r

def ofBytes {α : Type} (r : Reader α) (bs : List UInt8) : Option α :=
  (Tree.ofBytes? bs).bind r

end Reader

end AccountSync.Json
