import AccountSync.Text.Split

/-!
Punycode: characters past ASCII written in ASCII. The ASCII characters of a text come first; then the
others in the order of their code points, each as the number of places that lie between it and the one
before. The numbers have digits of varying weight, which follow the sizes seen so far.
-/

set_option autoImplicit false
set_option relaxedAutoImplicit false

namespace AccountSync.Url.Punycode

/-- A digit below thirty-six: the letters first. -/
def digit (d : Nat) : Char :=
  if d < 26 then Char.ofNat (97 + d) else Char.ofNat (22 + d)

def value? (c : Char) : Option Nat :=
  if 'a' ≤ c ∧ c ≤ 'z' then some (c.toNat - 97)
  else if 'A' ≤ c ∧ c ≤ 'Z' then some (c.toNat - 65)
  else if '0' ≤ c ∧ c ≤ '9' then some (c.toNat - 22)
  else none

/-- The least digit that does not end a number, at a position counted in steps of thirty-six. -/
def threshold (bias position : Nat) : Nat :=
  if position ≤ bias then 1 else min 26 (position - bias)

theorem threshold_pos (bias position : Nat) : 0 < threshold bias position := by
  unfold threshold
  split <;> omega

/-- Cuts a size down to at most 455, and counts the cuts in steps of thirty-six. -/
def shrink (size : Nat) : Nat × Nat :=
  if size ≤ 455 then (size, 0)
  else
    let (small, steps) := shrink (size / 35)
    (small, steps + 36)
termination_by size

/-- The bias after a number was written for one of so many characters. -/
def adapt (size count : Nat) (first : Bool) : Nat :=
  let size := if first then size / 700 else size / 2
  let (small, steps) := shrink (size + size / count)
  steps + 36 * small / (small + 38)

def writeNumber (bias position n : Nat) : List Char :=
  let t := threshold bias position
  if n < t then [digit n]
  else digit (t + (n - t) % (36 - t)) :: writeNumber bias (position + 36) ((n - t) / (36 - t))
termination_by n
decreasing_by
  have := threshold_pos bias position
  exact Nat.lt_of_le_of_lt (Nat.div_le_self _ _) (by omega)

/-- Reads a number at the start of a text, from a position on; gives what follows it. -/
def readNumber? (bias position weight : Nat) : List Char → Option (Nat × List Char)
  | [] => none
  | c :: rest => do
    let d ← value? c
    let t := threshold bias position
    if d < t then some (d * weight, rest)
    else
      let (n, rest) ← readNumber? bias (position + 36) (weight * (36 - t)) rest
      some (d * weight + n, rest)

theorem length_of_readNumber? {bias position weight n : Nat} {cs rest : List Char}
    (h : readNumber? bias position weight cs = some (n, rest)) : rest.length < cs.length := by
  induction cs generalizing position weight n with
  | nil => simp [readNumber?] at h
  | cons c cs ih =>
    simp only [readNumber?, Option.bind_eq_bind, Option.bind_eq_some_iff] at h
    obtain ⟨d, _, h⟩ := h
    split at h
    · obtain ⟨_, rfl⟩ := Prod.mk.inj (Option.some.inj h)
      simp
    · obtain ⟨⟨_, _⟩, hr, h⟩ := Option.bind_eq_some_iff.mp h
      obtain ⟨_, rfl⟩ := Prod.mk.inj (Option.some.inj h)
      exact Nat.lt_succ_of_lt (ih hr)

/-- What is kept while writing: the gap since the last number, the bias, how many characters have been
written, and the numbers. -/
structure Writing where
  gap : Nat := 0
  bias : Nat := 72
  count : Nat
  digits : List Char := []

/-- Passes one character of the text while those with a code point are written. -/
def Writing.pass (ascii point : Nat) (w : Writing) (c : Char) : Writing :=
  if c.toNat < point then { w with gap := w.gap + 1 }
  else if c.toNat = point then
    { gap := 0
      bias := adapt w.gap (w.count + 1) (w.count = ascii)
      count := w.count + 1
      digits := w.digits ++ writeNumber w.bias 36 w.gap }
  else w

/-- Writes the characters with the given code points, which ascend, from one code point on. -/
def Writing.all (text : List Char) (ascii : Nat) : List Nat → Nat → Writing → Writing
  | [], _, w => w
  | point :: points, n, w =>
    let w := { w with gap := w.gap + (point - n) * (w.count + 1) }
    let w := text.foldl (Writing.pass ascii point) w
    Writing.all text ascii points (point + 1) { w with gap := w.gap + 1 }

/-- The code points past ASCII in a text, ascending and each once. -/
def pointsPast (text : List Char) : List Nat :=
  ((text.map Char.toNat).filter (128 ≤ ·)).mergeSort.eraseDups

def encode (text : List Char) : List Char :=
  let ascii := text.filter (·.toNat < 128)
  let w := Writing.all text ascii.length (pointsPast text) 128 { count := ascii.length }
  ascii ++ (if ascii.isEmpty then [] else ['-']) ++ w.digits

/-- Puts characters where the numbers of a text say: each tells how many places lie between the place
behind the last one and its own, going round the characters for every code point in between. -/
def insert? (bias point place : Nat) (out cs : List Char) : Option (List Char) :=
  match cs with
  | [] => some out
  | c :: rest =>
    match h : readNumber? bias 36 1 (c :: rest) with
    | none => none
    | some (gap, rest) =>
      let places := out.length + 1
      let next := point + (place + gap) / places
      let here := (place + gap) % places
      if next.isValidChar then
        insert? (adapt gap places (place = 0)) next (here + 1) (out.insertIdx here (Char.ofNat next)) rest
      else none
termination_by cs.length
decreasing_by
  have := length_of_readNumber? h
  simpa using this

/-- Reads a text; the last hyphen stands behind its ASCII characters. -/
def decode? (text : List Char) : Option (List Char) :=
  match Text.splitOnce? '-' text.reverse with
  | none => insert? 72 128 0 [] text
  | some (_, []) => none
  | some (digits, ascii) => insert? 72 128 0 ascii.reverse digits.reverse

end AccountSync.Url.Punycode
