import AccountSync.Text.Composed
import AccountSync.Text.Rows
import AccountSync.Url.Domain.Table

/-!
The one form that spellings of a domain have in common: small letters, and for characters that only look
different the plain ones.
-/

set_option autoImplicit false
set_option relaxedAutoImplicit false

namespace AccountSync.Url.Domain

/-- What a character becomes that moves together with others. -/
def moveOf? (n : Nat) : Option Nat :=
  moved.findSome? fun row =>
    match row with
    | [first, last, step, target] =>
      if first ≤ n ∧ n ≤ last ∧ (n - first) % step = 0 then some (target + (n - first)) else none
    | _ => none

/-- What a character becomes that is replaced by another. -/
def replacement? (n : Nat) : Option Nat :=
  replaced.findSome? fun row =>
    match row with
    | first :: targets => if first ≤ n then targets[n - first]? else none
    | [] => none

/-- What a character becomes that stands for several. -/
def expansion? (n : Nat) : Option (List Nat) :=
  expanded.findSome? fun row =>
    match row with
    | source :: targets => if source = n then some targets else none
    | [] => none

def targets (n : Nat) : List Nat :=
  if Text.Intervals.contains dropped n then []
  else (expansion? n <|> (moveOf? n <|> replacement? n).map ([·])).getD [n]

/-- What a character becomes, unless no domain holds it. -/
def mapChar? (c : Char) : Option (List Char) :=
  if c.toNat < 128 then some [c.toLower]
  else if Text.Intervals.contains excluded c.toNat then none
  else some ((targets c.toNat).map Char.ofNat)

/-- The common form of the spellings of a domain. -/
def map? (cs : List Char) : Option (List Char) :=
  (cs.mapM mapChar?).map fun parts => Text.Composed.compose parts.flatten

def isMapped (cs : List Char) : Bool :=
  cs.all (fun c => mapChar? c = some [c]) && Text.Composed.compose cs = cs

end AccountSync.Url.Domain
