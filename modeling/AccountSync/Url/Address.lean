import AccountSync.Encoding.Hex
import AccountSync.Text.Split
import AccountSync.Url.Basic

/-!
Numeric hosts. An IPv4 address may be written with fewer numbers and in octal or hexadecimal; an IPv6
address with a run of zeros left out. Both have one printed form.
-/

set_option autoImplicit false
set_option relaxedAutoImplicit false

namespace AccountSync.Url

namespace Ipv4

def digits? (base : Nat) (cs : List Char) : Option Nat :=
  cs.foldlM (fun n c => do
    let v ← Encoding.Hex.value? c
    if v < base then some (n * base + v) else none) 0

/-- A number: decimal, octal behind a zero, or hexadecimal behind `0x`. -/
def number? : List Char → Option Nat
  | [] => none
  | ['0'] => some 0
  | '0' :: 'x' :: cs | '0' :: 'X' :: cs => digits? 16 cs
  | '0' :: cs => digits? 8 cs
  | cs => digits? 10 cs

/-- The parts between dots, without an empty last one. -/
def parts (cs : List Char) : List (List Char) :=
  let ps := Text.splitAll '.' cs
  if ps.getLast? = some [] then ps.dropLast else ps

/-- Whether the last part of a domain is a number, so that the whole has to be an address. -/
def endsInNumber (cs : List Char) : Bool :=
  match (parts cs).getLast? with
  | some last => (!last.isEmpty && last.all Char.isDigit) || (number? last).isSome
  | none => false

/-- The address as one number: the last part fills all the bytes that are left. -/
def parse? (cs : List Char) : Option Nat := do
  let ps := parts cs
  if 4 < ps.length then none
  else
    let ns ← ps.mapM number?
    let last ← ns.getLast?
    let front := ns.dropLast
    if last < Nat.pow 256 (4 - front.length) ∧ front.all (· < 256) then
      some (front.zipIdx.foldl (fun acc p => acc + p.1 * Nat.pow 256 (3 - p.2)) last)
    else none

def text (n : Nat) : String :=
  s!"{n / 0x1000000 % 256}.{n / 0x10000 % 256}.{n / 0x100 % 256}.{n % 256}"

end Ipv4

namespace Ipv6

/-- One to four hexadecimal digits at the start of a text, and what follows them. -/
def takePiece (cs : List Char) : Nat × Nat × List Char :=
  let rec go : Nat → Nat → Nat → List Char → Nat × Nat × List Char
    | 0, n, v, cs => (n, v, cs)
    | fuel + 1, n, v, c :: cs =>
      match Encoding.Hex.value? c with
      | some d => go fuel (n + 1) (v * 16 + d) cs
      | none => (n, v, c :: cs)
    | _, n, v, [] => (n, v, [])
  go 4 0 0 cs

/-- The two pieces of an IPv4 address in dotted form, each number without leading zeros. -/
def dotted? (cs : List Char) : Option (List Nat) :=
  match Text.splitAll '.' cs with
  | [a, b, c, d] => do
    let [a, b, c, d] ← [a, b, c, d].mapM byte? | none
    some [a * 256 + b, c * 256 + d]
  | _ => none
where
  /-- A number below 256. -/
  byte? (cs : List Char) : Option Nat :=
    if cs.isEmpty ∨ 3 < cs.length ∨ ¬ cs.all Char.isDigit ∨ (cs.head? = some '0' ∧ 1 < cs.length) then none
    else
      let n := cs.foldl (fun n c => 10 * n + (c.toNat - 48)) 0
      if n < 256 then some n else none

/-- Reads pieces; `zeros` is where a run of zeros was left out. The number of pieces bounds the
steps. -/
def pieces? : Nat → List Nat → Option Nat → List Char → Option (List Nat × Option Nat)
  | _, read, zeros, [] => some (read, zeros)
  | 0, _, _, _ => none
  | fuel + 1, read, zeros, ':' :: rest =>
    if zeros.isSome then none else pieces? fuel read (some read.length) rest
  | fuel + 1, read, zeros, cs =>
    if 8 ≤ read.length then none
    else
      let (n, v, rest) := takePiece cs
      match rest with
      | '.' :: _ => if n = 0 ∨ 6 < read.length then none else (dotted? cs).map fun ps => (read ++ ps, zeros)
      | ':' :: [] => none
      | ':' :: rest => if n = 0 then none else pieces? fuel (read ++ [v]) zeros rest
      | [] => if n = 0 then none else some (read ++ [v], zeros)
      | _ => none

def parse? (cs : List Char) : Option (List Nat) := do
  let start ← match cs with
    | ':' :: ':' :: rest => some (some 0, rest)
    | ':' :: _ => none
    | [] => none
    | cs => some (none, cs)
  let (read, zeros) ← pieces? 10 [] start.1 start.2
  match zeros with
  | some gap =>
    if 8 ≤ read.length then none
    else some (read.take gap ++ List.replicate (8 - read.length) 0 ++ read.drop gap)
  | none => if read.length = 8 then some read else none

/-- The length of the run of zeros at the start of a list. -/
def zeroRun (ps : List Nat) : Nat :=
  (ps.takeWhile (· = 0)).length

/-- Where the first longest run of at least two zeros starts, and its length. -/
def longestRun (ps : List Nat) : Option (Nat × Nat) :=
  (List.range ps.length).foldl (fun best i =>
    let n := zeroRun (ps.drop i)
    match best with
    | some (_, m) => if m < n then some (i, n) else best
    | none => if 2 ≤ n then some (i, n) else none) none

def join (ps : List Nat) : String :=
  ":".intercalate (ps.map fun p => String.ofList (Nat.toDigits 16 p))

def text (ps : List Nat) : String :=
  match longestRun ps with
  | some (i, n) => "[" ++ join (ps.take i) ++ "::" ++ join (ps.drop (i + n)) ++ "]"
  | none => "[" ++ join ps ++ "]"

end Ipv6

end AccountSync.Url
