import AccountSync.Encoding.Hex

/-!
The words of JSON text. `scan` reads characters one at a time, an undecodable part of the input
standing as `none`, and gives the tokens in order. Strings keep every character or code unit that was
written until the end of the string, where `assemble` joins surrogate pairs: a string with a lone
surrogate or an undecodable part is a token all the same, but has no text.
-/

set_option autoImplicit false
set_option relaxedAutoImplicit false

namespace AccountSync.Json

/-- A number as written: its digits before and after the point and its exponent. -/
structure Numeral where
  negative : Bool
  whole : List Nat
  fraction : Option (List Nat)
  exponent : Option Int
  deriving DecidableEq, Repr

inductive Token
  | openArray | closeArray | openObject | closeObject | comma | colon
  | null | bool (value : Bool)
  | numeral (n : Numeral)
  | string (text : Option String)
  deriving DecidableEq, Repr

namespace Token

/-- What a string was written with: a character, a surrogate code unit, or something undecodable. -/
inductive Piece
  | char (c : Char)
  | surrogate (unit : Nat)
  | undecodable
  deriving DecidableEq

/-- Joins surrogate pairs; `none` where a half is alone or a part was undecodable. -/
def assemble : List Piece → Option (List Char)
  | [] => some []
  | .char c :: rest => (assemble rest).map (c :: ·)
  | .surrogate a :: .surrogate b :: rest =>
    if a < 0xDC00 ∧ 0xDC00 ≤ b then
      (assemble rest).map (Char.ofNat (0x10000 + (a - 0xD800) * 0x400 + (b - 0xDC00)) :: ·)
    else none
  | _ => none

/-- A code unit is a surrogate or stands for a character. -/
def Piece.ofUnit (unit : Nat) : Piece :=
  if 0xD800 ≤ unit ∧ unit < 0xE000 then .surrogate unit else .char (Char.ofNat unit)

inductive Stage
  | sign | zero | whole | point | fraction | mark | markSign | exponent
  deriving DecidableEq

/-- A numeral under way, digits latest first. -/
structure Draft where
  stage : Stage
  negative : Bool
  whole : List Nat := []
  fraction : Option (List Nat) := none
  exponentNegative : Bool := false
  exponent : Option Nat := none

/-- The numeral, if it may end here. -/
def Draft.finish (d : Draft) : Option Numeral :=
  match d.stage with
  | .zero | .whole | .fraction | .exponent =>
    some ⟨d.negative, d.whole.reverse, d.fraction.map List.reverse,
      d.exponent.map fun e => if d.exponentNegative then -(e : Int) else (e : Int)⟩
  | _ => none

def digit? (c : Char) : Option Nat :=
  if '0' ≤ c ∧ c ≤ '9' then some (c.toNat - 48) else none

/-- Continues a numeral, or `none` if the character is no part of it. -/
def Draft.push? (d : Draft) (c : Char) : Option Draft :=
  match d.stage, digit? c with
  | .sign, some 0 => some { d with stage := .zero, whole := [0] }
  | .sign, some n | .whole, some n => some { d with stage := .whole, whole := n :: d.whole }
  | .point, some n | .fraction, some n =>
    some { d with stage := .fraction, fraction := some (n :: d.fraction.getD []) }
  | .mark, some n | .markSign, some n | .exponent, some n =>
    some { d with stage := .exponent, exponent := some (10 * d.exponent.getD 0 + n) }
  | .zero, none | .whole, none =>
    if c = '.' then some { d with stage := .point }
    else if c = 'e' ∨ c = 'E' then some { d with stage := .mark }
    else none
  | .fraction, none => if c = 'e' ∨ c = 'E' then some { d with stage := .mark } else none
  | .mark, none =>
    if c = '+' then some { d with stage := .markSign }
    else if c = '-' then some { d with stage := .markSign, exponentNegative := true }
    else none
  | _, _ => none

/-- Where the reader stands between two characters. Pieces of a string are kept latest first. -/
inductive Mode
  | between
  | word (left : List Char) (token : Token)
  | numeral (draft : Draft)
  | string (pieces : List Piece)
  | escape (pieces : List Piece)
  | unit (pieces : List Piece) (owed : Nat) (value : Nat)

def isBlank (c : Char) : Bool :=
  c = ' ' || c = '\n' || c = '\t' || c = '\r'

/-- A character between tokens: the token it is, if it is a whole one, and what it begins. -/
def first (c : Char) : Option (List Token × Mode) :=
  if isBlank c then some ([], .between)
  else if c = '[' then some ([.openArray], .between)
  else if c = ']' then some ([.closeArray], .between)
  else if c = '\x7b' then some ([.openObject], .between)
  else if c = '\x7d' then some ([.closeObject], .between)
  else if c = ',' then some ([.comma], .between)
  else if c = ':' then some ([.colon], .between)
  else if c = '"' then some ([], .string [])
  else if c = 'n' then some ([], .word ['u', 'l', 'l'] .null)
  else if c = 't' then some ([], .word ['r', 'u', 'e'] (.bool true))
  else if c = 'f' then some ([], .word ['a', 'l', 's', 'e'] (.bool false))
  else if c = '-' then some ([], .numeral ⟨.sign, true, [], none, false, none⟩)
  else ((⟨.sign, false, [], none, false, none⟩ : Draft).push? c).map fun d => ([], .numeral d)

def escaped? (c : Char) : Option Char :=
  if c = '"' ∨ c = '\\' ∨ c = '/' then some c
  else if c = 'b' then some '\x08'
  else if c = 'f' then some '\x0c'
  else if c = 'n' then some '\n'
  else if c = 'r' then some '\r'
  else if c = 't' then some '\t'
  else none

def closeString (pieces : List Piece) : Token :=
  .string ((assemble pieces.reverse).map String.ofList)

/-- Reads one character: the tokens that it completes, and where the reader stands after it. -/
def step (mode : Mode) (c : Option Char) : Option (List Token × Mode) :=
  match mode, c with
  | .string ps, none => some ([], .string (.undecodable :: ps))
  | _, none => none
  | .between, some c => first c
  | .word (w :: left) token, some c =>
    if c = w then some (if left.isEmpty then ([token], .between) else ([], .word left token)) else none
  | .word [] _, _ => none
  | .numeral d, some c =>
    match d.push? c with
    | some d => some ([], .numeral d)
    | none => do
      let n ← d.finish
      let (ts, m) ← first c
      pure (.numeral n :: ts, m)
  | .string ps, some c =>
    if c = '"' then some ([closeString ps], .between)
    else if c = '\\' then some ([], .escape ps)
    else if c.toNat < 32 then none
    else some ([], .string (.char c :: ps))
  | .escape ps, some c =>
    if c = 'u' then some ([], .unit ps 4 0)
    else (escaped? c).map fun e => ([], .string (.char e :: ps))
  | .unit ps owed value, some c => do
    let n ← Encoding.Hex.value? c
    let value := 16 * value + n
    pure ([], if owed ≤ 1 then .string (.ofUnit value :: ps) else .unit ps (owed - 1) value)

/-- What is complete at the end of the text. -/
def finish : Mode → Option (List Token)
  | .between => some []
  | .numeral d => d.finish.map fun n => [.numeral n]
  | _ => none

def scanFrom : Mode → List (Option Char) → Option (List Token)
  | mode, [] => finish mode
  | mode, c :: rest => do
    let (ts, mode) ← step mode c
    let more ← scanFrom mode rest
    pure (ts ++ more)

/-- The tokens of a text, or `none` if some part of it is no token. -/
def scan (text : List (Option Char)) : Option (List Token) :=
  scanFrom .between text

end Token

end AccountSync.Json
