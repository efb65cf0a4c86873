/-!
JSON documents as the program holds them, and their text. Objects keep the order in which their
members are written; `sorted` gives the order of documents that are kept without being understood.
-/

set_option autoImplicit false
set_option relaxedAutoImplicit false

namespace AccountSync

/-- A number: a whole number of 64 bits, with or without sign, or the bit pattern of a binary
floating-point number. -/
inductive Json.Number
  | whole (value : Int)
  | real (bits : UInt64)
  deriving DecidableEq, Repr

inductive Json
  | null
  | bool (value : Bool)
  | number (value : Json.Number)
  | string (value : String)
  | array (items : List Json)
  | object (members : List (String × Json))
  deriving Repr, Inhabited

namespace Json

def nat (n : Nat) : Json := .number (.whole n)

def int (n : Int) : Json := .number (.whole n)

def ofOption {α : Type} (write : α → Json) : Option α → Json
  | none => .null
  | some a => write a

/-- The value under a name. Of several, the last. -/
def member? (name : String) : Json → Option Json
  | .object ms => (ms.reverse.find? (·.1 = name)).map (·.2)
  | _ => none

def string? : Json → Option String
  | .string s => some s
  | _ => none

/-- Puts a member at its place among members sorted by name; a name already there takes the new
value. -/
def insertMember (name : String) (value : Json) : List (String × Json) → List (String × Json)
  | [] => [(name, value)]
  | (n, v) :: rest =>
    if name < n then (name, value) :: (n, v) :: rest
    else if n < name then (n, v) :: insertMember name value rest
    else (name, value) :: rest

/-- An object of the given members, sorted by name, a later member replacing an earlier one of the
same name. -/
def ofMembers (ms : List (String × Json)) : Json :=
  .object (ms.foldl (fun acc m => insertMember m.1 m.2 acc) [])

end Json

end AccountSync
