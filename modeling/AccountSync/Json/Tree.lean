import AccountSync.Json.Basic
import AccountSync.Json.Real
import AccountSync.Json.Token
import AccountSync.Text.Utf8

/-!
What a JSON text says before any of it is interpreted: strings that may have no text, numbers as
written, objects with all their members in order. `parse` builds the tree from the tokens with a
stack of open brackets, so nesting has no bound here. `value?` interprets a tree as a document to be
kept, and there the nesting is bounded.
-/

set_option autoImplicit false
set_option relaxedAutoImplicit false

namespace AccountSync.Json

inductive Tree
  | null
  | bool (value : Bool)
  | numeral (n : Numeral)
  | string (text : Option String)
  | array (items : List Tree)
  | object (members : List (Option String × Tree))
  deriving Repr, Inhabited

def digitsValue (ds : List Nat) : Nat :=
  ds.foldl (fun n d => 10 * n + d) 0

/-- The whole number that a numeral is, if it has neither point nor exponent and fits into 64 bits. A
zero with a minus sign is no whole number. -/
def Numeral.whole? (n : Numeral) : Option Int :=
  if n.fraction.isSome ∨ n.exponent.isSome then none
  else
    let v := digitsValue n.whole
    if n.negative then (if 0 < v ∧ v ≤ 0x8000000000000000 then some (-(v : Int)) else none)
    else (if v < UInt64.size then some (v : Int) else none)

/-- The number that a numeral denotes, or `none` if it is too large. -/
def Numeral.number? (n : Numeral) : Option Number :=
  match n.whole? with
  | some v => some (.whole v)
  | none => (Real.read? n.negative n.whole (n.fraction.getD []) (n.exponent.getD 0)).map .real

namespace Tree

/-- An open bracket, with what stands in it so far, latest first. In an object the name of the member
under way is known. -/
inductive Frame
  | array (items : List Tree)
  | object (members : List (Option String × Tree)) (name : Option String)

inductive Expect
  /-- A value; or the end of the array that was just opened. -/
  | value (orClose : Bool)
  /-- The name of a member; or the end of the object that was just opened. -/
  | name (members : List (Option String × Tree)) (orClose : Bool)
  | colon (members : List (Option String × Tree)) (name : Option String)
  /-- A comma or a closing bracket after a complete value, or the end of the text. -/
  | after (value : Tree)

/-- A reader under way: the open brackets, innermost first, and what may come next. -/
structure State where
  frames : List Frame
  expect : Expect

def ofToken? : Token → Option Tree
  | .null => some .null
  | .bool b => some (.bool b)
  | .numeral n => some (.numeral n)
  | .string s => some (.string s)
  | _ => none

/-- Reads a token where a value may begin. -/
def stepValue (frames : List Frame) (orClose : Bool) (t : Token) : Option State :=
  match t with
  | .openArray => some ⟨.array [] :: frames, .value true⟩
  | .openObject => some ⟨frames, .name [] true⟩
  | .closeArray =>
    match orClose, frames with
    | true, .array [] :: frames => some ⟨frames, .after (.array [])⟩
    | _, _ => none
  | t => (ofToken? t).map fun v => ⟨frames, .after v⟩

/-- Reads a token after a complete value. -/
def stepAfter (frames : List Frame) (v : Tree) (t : Token) : Option State :=
  match frames, t with
  | .array items :: frames, .comma => some ⟨.array (v :: items) :: frames, .value false⟩
  | .array items :: frames, .closeArray => some ⟨frames, .after (.array (v :: items).reverse)⟩
  | .object members name :: frames, .comma => some ⟨frames, .name ((name, v) :: members) false⟩
  | .object members name :: frames, .closeObject =>
    some ⟨frames, .after (.object ((name, v) :: members).reverse)⟩
  | _, _ => none

def step (s : State) (t : Token) : Option State :=
  match s.expect with
  | .value orClose => stepValue s.frames orClose t
  | .name members orClose =>
    match t with
    | .string name => some ⟨s.frames, .colon members name⟩
    | .closeObject => if orClose then some ⟨s.frames, .after (.object [])⟩ else none
    | _ => none
  | .colon members name =>
    if t = .colon then some ⟨.object members name :: s.frames, .value false⟩ else none
  | .after v => stepAfter s.frames v t

def run (s : State) : List Token → Option State
  | [] => some s
  | t :: rest => (step s t).bind fun s => run s rest

/-- The value, if exactly one was read and no bracket is open. -/
def result? (s : State) : Option Tree :=
  match s.frames, s.expect with
  | [], .after v => some v
  | _, _ => none

def ofTokens? (ts : List Token) : Option Tree :=
  (run ⟨[], .value false⟩ ts).bind result?

/-- The tree of a text that may hold undecodable parts. -/
def parse (text : List (Option Char)) : Option Tree :=
  (Token.scan text).bind ofTokens?

def ofText? (text : String) : Option Tree :=
  parse (text.toList.map some)

def ofBytes? (bs : List UInt8) : Option Tree :=
  parse (Text.Utf8.scan bs)

mutual

/-- The document that a tree says, if every string has a text, every number is in range, and at most
`depth` brackets are open at once. Members are sorted by name, a later one replacing an earlier one
of the same name. -/
def value? (depth : Nat) : Tree → Option Json
  | .null => some .null
  | .bool b => some (.bool b)
  | .numeral n => n.number?.map .number
  | .string s => s.map .string
  | .array items =>
    if depth = 0 then none else (items? (depth - 1) items).map .array
  | .object members =>
    if depth = 0 then none else (members? (depth - 1) members).map Json.ofMembers

def items? (depth : Nat) : List Tree → Option (List Json)
  | [] => some []
  | t :: ts => do
    let j ← value? depth t
    let js ← items? depth ts
    pure (j :: js)

def members? (depth : Nat) : List (Option String × Tree) → Option (List (String × Json))
  | [] => some []
  | (name, t) :: ms => do
    let name ← name
    let j ← value? depth t
    let rest ← members? depth ms
    pure ((name, j) :: rest)

end

/-- The brackets that may be open at once in a document that is kept. -/
def maxDepth : Nat := 127

end Tree

def ofText? (text : String) : Option Json :=
  (Tree.ofText? text).bind (Tree.value? Tree.maxDepth)

def ofBytes? (bs : List UInt8) : Option Json :=
  (Tree.ofBytes? bs).bind (Tree.value? Tree.maxDepth)

end AccountSync.Json
