/-!
UTF-8, read one byte at a time. `scan` gives every well-formed sequence as its character and every
maximal ill-formed part as `none`, so that a reader can refuse such parts (`decode?`), replace them
(`lossy`) or overlook them. Main statement: `scan_encode`, text written as bytes is read back.
-/

set_option autoImplicit false
set_option relaxedAutoImplicit false

namespace AccountSync.Text.Utf8

def encode (text : List Char) : List UInt8 :=
  text.flatMap String.utf8EncodeChar

def bytes (text : String) : List UInt8 :=
  encode text.toList

/-- A character of which some bytes have been read: how many are still owed, the range that the next
one has to lie in, and the value of those read. -/
structure Partial where
  owed : Nat
  low : UInt8
  high : UInt8
  value : Nat

/-- What a byte at the start of a character announces: a whole character, a longer one, or nothing
well-formed. The narrower ranges keep out overlong forms, surrogates and values past the last
character. -/
def start (b : UInt8) : Option (Char ⊕ Partial) :=
  if b < 0x80 then some (.inl (Char.ofNat b.toNat))
  else if b < 0xC2 then none
  else if b < 0xE0 then some (.inr ⟨1, 0x80, 0xBF, b.toNat - 0xC0⟩)
  else if b < 0xF0 then
    some (.inr ⟨2, if b = 0xE0 then 0xA0 else 0x80, if b = 0xED then 0x9F else 0xBF, b.toNat - 0xE0⟩)
  else if b < 0xF5 then
    some (.inr ⟨3, if b = 0xF0 then 0x90 else 0x80, if b = 0xF4 then 0x8F else 0xBF, b.toNat - 0xF0⟩)
  else none

/-- Reads bytes that follow an unfinished character, or that stand between characters. -/
def scanFrom : Option Partial → List UInt8 → List (Option Char)
  | none, [] => []
  | some _, [] => [none]
  | none, b :: rest =>
    match start b with
    | none => none :: scanFrom none rest
    | some (.inl c) => some c :: scanFrom none rest
    | some (.inr p) => scanFrom (some p) rest
  | some p, b :: rest =>
    if p.low ≤ b ∧ b ≤ p.high then
      let value := p.value * 64 + (b.toNat - 0x80)
      if p.owed ≤ 1 then some (Char.ofNat value) :: scanFrom none rest
      else scanFrom (some ⟨p.owed - 1, 0x80, 0xBF, value⟩) rest
    else
      match start b with
      | none => none :: none :: scanFrom none rest
      | some (.inl c) => none :: some c :: scanFrom none rest
      | some (.inr q) => none :: scanFrom (some q) rest

/-- Every well-formed sequence as its character, every maximal ill-formed part as `none`. -/
def scan (bs : List UInt8) : List (Option Char) :=
  scanFrom none bs

def decode? (bs : List UInt8) : Option String :=
  ((scan bs).mapM id).map String.ofList

/-- The text with each ill-formed part replaced by U+FFFD. -/
def lossy (bs : List UInt8) : String :=
  String.ofList ((scan bs).map (·.getD '\uFFFD'))

theorem toNat_ofNat_of_lt {n : Nat} (h : n < 256) : (UInt8.ofNat n).toNat = n := by
  rw [UInt8.toNat_ofNat']
  exact Nat.mod_eq_of_lt h

theorem ofNat_lt_iff {n : Nat} (h : n < 256) (b : UInt8) : UInt8.ofNat n < b ↔ n < b.toNat := by
  rw [UInt8.lt_iff_toNat_lt, toNat_ofNat_of_lt h]

theorem ofNat_eq_iff {n : Nat} (h : n < 256) (b : UInt8) : UInt8.ofNat n = b ↔ n = b.toNat := by
  rw [← UInt8.toNat_inj, toNat_ofNat_of_lt h]

theorem start_one {n : Nat} (h : n < 0x80) :
    start (UInt8.ofNat n) = some (.inl (Char.ofNat n)) := by
  have small : n < 256 := by omega
  simp [start, ofNat_lt_iff small, toNat_ofNat_of_lt small, h]

theorem start_two {n : Nat} (low : 0xC2 ≤ n) (high : n < 0xE0) :
    start (UInt8.ofNat n) = some (.inr ⟨1, 0x80, 0xBF, n - 0xC0⟩) := by
  have small : n < 256 := by omega
  have past : ¬ n < 0x80 := by omega
  simp [start, ofNat_lt_iff small, toNat_ofNat_of_lt small, past, Nat.not_lt.mpr low, high]

theorem start_three {n : Nat} (low : 0xE0 ≤ n) (high : n < 0xF0) :
    start (UInt8.ofNat n) = some (.inr ⟨2, if n = 0xE0 then 0xA0 else 0x80,
      if n = 0xED then 0x9F else 0xBF, n - 0xE0⟩) := by
  have small : n < 256 := by omega
  have past : ¬ n < 0x80 ∧ ¬ n < 0xC2 := by omega
  simp [start, ofNat_lt_iff small, ofNat_eq_iff small, toNat_ofNat_of_lt small, past,
    Nat.not_lt.mpr low, high]

theorem start_four {n : Nat} (low : 0xF0 ≤ n) (high : n < 0xF5) :
    start (UInt8.ofNat n) = some (.inr ⟨3, if n = 0xF0 then 0x90 else 0x80,
      if n = 0xF4 then 0x8F else 0xBF, n - 0xF0⟩) := by
  have small : n < 256 := by omega
  have past : ¬ n < 0x80 ∧ ¬ n < 0xC2 ∧ ¬ n < 0xE0 := by omega
  simp [start, ofNat_lt_iff small, ofNat_eq_iff small, toNat_ofNat_of_lt small, past,
    Nat.not_lt.mpr low, high]

theorem scanFrom_none {b : UInt8} {p : Partial} (h : start b = some (.inr p)) (rest : List UInt8) :
    scanFrom none (b :: rest) = scanFrom (some p) rest := by
  rw [scanFrom, h]

theorem scanFrom_some {p : Partial} {n : Nat} (small : n < 256) (low : p.low.toNat ≤ n)
    (high : n ≤ p.high.toNat) (rest : List UInt8) :
    scanFrom (some p) (UInt8.ofNat n :: rest) =
      if p.owed ≤ 1 then some (Char.ofNat (p.value * 64 + (n - 0x80))) :: scanFrom none rest
      else scanFrom (some ⟨p.owed - 1, 0x80, 0xBF, p.value * 64 + (n - 0x80)⟩) rest := by
  have inside : p.low ≤ UInt8.ofNat n ∧ UInt8.ofNat n ≤ p.high := by
    simp only [UInt8.le_iff_toNat_le, toNat_ofNat_of_lt small]
    exact ⟨low, high⟩
  simp only [scanFrom, inside, and_self, if_true, toNat_ofNat_of_lt small]

theorem scanFrom_last {low high : UInt8} {value n : Nat} (small : n < 256)
    (above : low.toNat ≤ n) (below : n ≤ high.toNat) (rest : List UInt8) :
    scanFrom (some ⟨1, low, high, value⟩) (UInt8.ofNat n :: rest) =
      some (Char.ofNat (value * 64 + (n - 0x80))) :: scanFrom none rest := by
  rw [scanFrom_some small above below]
  rfl

theorem scanFrom_next {low high : UInt8} {owed value n : Nat} (small : n < 256)
    (above : low.toNat ≤ n) (below : n ≤ high.toNat) (rest : List UInt8) :
    scanFrom (some ⟨owed + 2, low, high, value⟩) (UInt8.ofNat n :: rest) =
      scanFrom (some ⟨owed + 1, 0x80, 0xBF, value * 64 + (n - 0x80)⟩) rest := by
  rw [scanFrom_some small above below, if_neg (by dsimp only; omega)]
  rfl

/-- The bytes of a character are read back as it, whatever follows them. -/
theorem scanFrom_encodeChar (c : Char) (rest : List UInt8) :
    scanFrom none (String.utf8EncodeChar c ++ rest) = some c :: scanFrom none rest := by
  have valid : c.toNat < 0xD800 ∨ 0xDFFF < c.toNat ∧ c.toNat < 0x110000 := c.valid
  have same : c = Char.ofNat c.toNat := (Char.ofNat_toNat c).symm
  have value : c.val.toNat = c.toNat := rfl
  simp only [String.utf8EncodeChar, value]
  generalize c.toNat = n at valid same
  clear value
  subst same
  split
  · rw [List.singleton_append, scanFrom, start_one (by omega)]
  split
  · simp only [List.cons_append, List.nil_append]
    rw [scanFrom_none (start_two (by omega) (by omega)),
      scanFrom_last (by omega) (by simp) (by simp; omega)]
    exact congrArg (fun m => some (Char.ofNat m) :: scanFrom none rest) (by omega)
  split
  · simp only [List.cons_append, List.nil_append]
    rw [scanFrom_none (start_three (by omega) (by omega)),
      scanFrom_next (by omega) (by split <;> simp; omega) (by split <;> simp <;> omega),
      scanFrom_last (by omega) (by simp) (by simp; omega)]
    exact congrArg (fun m => some (Char.ofNat m) :: scanFrom none rest) (by omega)
  · simp only [List.cons_append, List.nil_append]
    rw [scanFrom_none (start_four (by omega) (by omega)),
      scanFrom_next (by omega) (by split <;> simp; omega) (by split <;> simp <;> omega),
      scanFrom_next (by omega) (by simp) (by simp; omega),
      scanFrom_last (by omega) (by simp) (by simp; omega)]
    exact congrArg (fun m => some (Char.ofNat m) :: scanFrom none rest) (by omega)

theorem scan_encode (text : List Char) : scan (encode text) = text.map some := by
  induction text with
  | nil => rfl
  | cons c rest ih =>
    simp only [scan, encode, List.flatMap_cons, List.map_cons] at ih ⊢
    rw [scanFrom_encodeChar, ih]

theorem decode?_bytes (text : String) : decode? (bytes text) = some text := by
  have whole (cs : List Char) : (cs.map some).mapM id = some cs := by
    induction cs with
    | nil => rfl
    | cons c cs ih => rw [List.map_cons, List.mapM_cons, ih]; rfl
  rw [decode?, bytes, scan_encode, whole, Option.map_some, String.ofList_toList]

theorem lossy_bytes (text : String) : lossy (bytes text) = text := by
  simp [lossy, bytes, scan_encode, Function.comp_def]

end AccountSync.Text.Utf8
