import AccountSync.Http.Signal
import AccountSync.Proofs.Text.Decimal
import Mathlib.Algebra.Order.Floor.Semifield
import Mathlib.Data.Rat.Floor
import Mathlib.Tactic.FieldSimp
import Mathlib.Tactic.Ring

/-!
Times in decimal seconds. `WritesSeconds` says which texts are such times and what number they denote, whatever the
count of their digits; `Stepwise.decimalSeconds` reads them in words of the machine, one operation at a time. Main
statement: `decimalSeconds?_exact`, that what is read is the number cut off behind its thousandths, where that fits 64
bits, and that no operation on the way goes over.
-/

set_option autoImplicit false
set_option relaxedAutoImplicit false

namespace AccountSync.Http

open Text.Decimal Text

/-- Text of decimal seconds: digits, and perhaps a point and any number of digits behind it. -/
inductive WritesSeconds : List Char → ℚ → Prop
  | whole {ws : List Char} : Run ws → WritesSeconds ws (denoted ws)
  | parted {ws fs : List Char} : Run ws → (∀ c ∈ fs, c.isDigit = true) →
      WritesSeconds (ws ++ '.' :: fs) (denoted ws + denoted fs / 10 ^ fs.length)

def parts (cs : List Char) : List Char × List Char := (splitOnce? '.' cs).getD (cs, [])

/-- The number that the first three places behind a point denote, zeros standing for those that are missing. -/
def thousandths (fs : List Char) : Nat := denoted ((fs ++ List.replicate 3 '0').take 3)

variable {cs ws fs : List Char} {q : ℚ} {m : Instant} {text : String}

private theorem splitOnce?_eq_none {sep : Char} (h : sep ∉ cs) : splitOnce? sep cs = none := by
  refine Option.eq_none_iff_forall_ne_some.mpr fun p hp => h ?_
  rw [(splitOnce?_eq_some_iff.mp hp).1]
  exact List.mem_append_right _ List.mem_cons_self

private theorem not_mem_of_digits (h : ∀ c ∈ ws, c.isDigit = true) : '.' ∉ ws :=
  fun hmem => Bool.false_ne_true (h '.' hmem)

private theorem writesSeconds_iff : WritesSeconds cs q ↔ Run (parts cs).1 ∧ (∀ c ∈ (parts cs).2, c.isDigit = true) ∧
    q = denoted (parts cs).1 + denoted (parts cs).2 / 10 ^ (parts cs).2.length := by
  constructor
  · intro h
    cases h with
    | whole hrun =>
      have hparts : parts cs = (cs, []) := by
        rw [parts, splitOnce?_eq_none (not_mem_of_digits hrun.digits)]
        rfl
      rw [hparts]
      exact ⟨hrun, nofun, by simp [denoted]⟩
    | @parted ws fs hrun hdigits =>
      have hparts : parts (ws ++ '.' :: fs) = (ws, fs) := by
        rw [parts, splitOnce?_eq_some_iff.mpr ⟨rfl, not_mem_of_digits hrun.digits⟩]
        rfl
      rw [hparts]
      exact ⟨hrun, hdigits, rfl⟩
  · rintro ⟨hrun, hdigits, rfl⟩
    cases hsplit : splitOnce? '.' cs with
    | none =>
      have hparts : parts cs = (cs, []) := by
        rw [parts, hsplit]
        rfl
      rw [hparts] at hrun ⊢
      have hwhole := WritesSeconds.whole hrun
      simpa [denoted] using hwhole
    | some p =>
      have hparts : parts cs = p := by
        rw [parts, hsplit]
        rfl
      rw [hparts] at hrun hdigits ⊢
      rw [(splitOnce?_eq_some_iff.mp (hsplit : splitOnce? '.' cs = some (p.1, p.2))).1]
      exact .parted hrun hdigits

private theorem thousandths_eq (h : ∀ c ∈ fs, c.isDigit = true) :
    thousandths fs = 1000 * denoted fs / 10 ^ fs.length := by
  have hpadded : denoted (fs ++ List.replicate 3 '0') = 1000 * denoted fs := by
    rw [denoted_append, denoted_zeros, List.length_replicate]
    ring
  have hdigits : ∀ c ∈ (fs ++ List.replicate 3 '0').drop 3, c.isDigit = true := by
    intro c hc
    rcases List.mem_append.mp (List.mem_of_mem_drop hc) with hc | hc
    · exact h c hc
    · rw [(List.mem_replicate.mp hc).2]
      rfl
  have hlength : ((fs ++ List.replicate 3 '0').drop 3).length = fs.length := by simp
  have hsplit := denoted_append ((fs ++ List.replicate 3 '0').take 3) ((fs ++ List.replicate 3 '0').drop 3)
  have hlt := denoted_lt hdigits
  rw [List.take_append_drop, hpadded, hlength] at hsplit
  rw [hlength] at hlt
  rw [thousandths, hsplit, Nat.mul_comm, Nat.mul_add_div (Nat.pow_pos (by decide)), Nat.div_eq_of_lt hlt, Nat.add_zero]

private theorem floor_writesSeconds (h : WritesSeconds cs q) :
    ⌊1000 * q⌋₊ = 1000 * denoted (parts cs).1 + thousandths (parts cs).2 := by
  obtain ⟨-, hdigits, rfl⟩ := writesSeconds_iff.mp h
  rw [thousandths_eq hdigits]
  generalize denoted (parts cs).1 = w
  generalize denoted (parts cs).2 = f
  generalize (parts cs).2.length = k
  have hpow : 0 < 10 ^ k := Nat.pow_pos (by decide)
  have hratio : (1000 * ((w : ℚ) + f / 10 ^ k)) = ((10 ^ k * (1000 * w) + 1000 * f : ℕ) : ℚ) / ((10 ^ k : ℕ) : ℚ) := by
    push_cast
    field_simp
  rw [hratio, Nat.floor_div_eq_div, Nat.mul_add_div hpow]

private theorem decimalSeconds?_eq (text : String) : decimalSeconds? text =
    (digits? (parts text.toList).1).bind fun seconds =>
      if (parts text.toList).2.all Char.isDigit then
        if 1000 * seconds + thousandths (parts text.toList).2 ≤ maxMillis then
          some (UInt64.ofNat (1000 * seconds + thousandths (parts text.toList).2))
        else none
      else none := by
  have hfold : ∀ fs : List Char, ((fs ++ ['0', '0', '0']).take 3).foldl (fun n c => 10 * n + (c.toNat - 48)) 0 =
      thousandths fs := by
    intro fs
    rw [foldl_digits, Nat.zero_mul, Nat.zero_add]
    rfl
  simp only [decimalSeconds?, hfold]
  rfl

private theorem decimalSeconds?_eq_some_iff : decimalSeconds? text = some m ↔
    ∃ q, WritesSeconds text.toList q ∧ ⌊1000 * q⌋₊ = m.toNat := by
  have hmax : maxMillis = 2 ^ 64 - 1 := rfl
  rw [decimalSeconds?_eq, Option.bind_eq_some_iff]
  constructor
  · rintro ⟨seconds, hseconds, hrest⟩
    obtain ⟨hrun, rfl⟩ := digits?_eq_some_iff.mp hseconds
    split at hrest
    · rename_i hdigits
      split at hrest
      · rename_i hfits
        obtain rfl := Option.some.inj hrest
        have hwrites := writesSeconds_iff.mpr ⟨hrun, List.all_eq_true.mp hdigits, rfl⟩
        refine ⟨_, hwrites, ?_⟩
        rw [floor_writesSeconds hwrites, UInt64.toNat_ofNat']
        omega
      · cases hrest
    · cases hrest
  · rintro ⟨q, hwrites, hfloor⟩
    obtain ⟨hrun, hdigits, -⟩ := writesSeconds_iff.mp hwrites
    rw [floor_writesSeconds hwrites] at hfloor
    have hlt := m.toNat_lt
    refine ⟨_, digits?_eq_some_iff.mpr ⟨hrun, rfl⟩, ?_⟩
    rw [if_pos (List.all_eq_true.mpr hdigits), hfloor, if_pos (by omega), UInt64.ofNat_toNat]

private theorem decimalSeconds?_eq_none_iff : decimalSeconds? text = none ↔
    ∀ q, WritesSeconds text.toList q → maxMillis < ⌊1000 * q⌋₊ := by
  have hmax : maxMillis = 2 ^ 64 - 1 := rfl
  rw [Option.eq_none_iff_forall_ne_some]
  constructor
  · intro hnone q hwrites
    by_contra hle
    refine hnone (UInt64.ofNat ⌊1000 * q⌋₊) (decimalSeconds?_eq_some_iff.mpr ⟨q, hwrites, ?_⟩)
    rw [UInt64.toNat_ofNat']
    omega
  · intro hlarge m hm
    obtain ⟨q, hwrites, hfloor⟩ := decimalSeconds?_eq_some_iff.mp hm
    have hlt := m.toNat_lt
    have hmore := hlarge q hwrites
    omega

namespace Stepwise

structure Overflow where
  bits : Nat
  result : Int

def exact (bits : Nat) (n : Int) : Except Overflow Nat :=
  if 0 ≤ n ∧ n < 2 ^ bits then .ok n.toNat else .error ⟨bits, n⟩

def checked (n : Nat) : Option Nat := if n < UInt64.size then some n else none

def number? (cs : List Char) : Option Nat :=
  cs.foldlM (fun n c => (checked (n * 10)).bind fun tens => checked (tens + digit c)) 0

/-- One place of a fraction, the first of which counts hundreds. -/
def place (millis : Nat) (entry : Char × Nat) : Except Overflow Nat := do
  let digit ← exact 8 (entry.1.toNat - 48)
  let power ← exact 32 (2 - entry.2)
  let worth ← exact 64 (10 ^ power)
  let share ← exact 64 (digit * worth)
  exact 64 (millis + share)

def millis (fs : List Char) : Except Overflow Nat := (fs.take 3).zipIdx.foldlM place 0

/-- Decimal seconds as milliseconds, each step in words of the machine. -/
def decimalSeconds (text : String) : Except Overflow (Option Instant) :=
  let (whole, fraction) := parts text.toList
  if whole.isEmpty ∨ ¬ whole.all Char.isDigit then .ok none
  else if ¬ fraction.all Char.isDigit then .ok none
  else match number? whole with
    | none => .ok none
    | some seconds => do
      let millis ← millis fraction
      return ((checked (seconds * 1000)).bind fun whole => checked (whole + millis)).map UInt64.ofNat

variable {c : Char} {bits i n : Nat}

private theorem exact_eq {z : Int} (hz : z = n) (hlt : n < 2 ^ bits) : exact bits z = .ok n := by
  have hroom : 0 ≤ z ∧ z < 2 ^ bits := by
    rw [hz]
    exact ⟨Int.natCast_nonneg n, by exact_mod_cast hlt⟩
  rw [exact, if_pos hroom, hz, Int.toNat_natCast]

private theorem exact_bind {α : Type} {z : Int} {f : Nat → Except Overflow α} (hz : z = n) (hlt : n < 2 ^ bits) :
    exact bits z >>= f = f n := by
  rw [exact_eq hz hlt]
  rfl

private theorem checked_bind {f : Nat → Nat} (hf : ∀ n, n ≤ f n) (n : Nat) :
    ((checked n).bind fun n => checked (f n)) = checked (f n) := by
  have hle := hf n
  unfold checked
  split
  · rfl
  · rw [if_neg (by omega)]
    rfl

private theorem map_checked (n : Nat) :
    (checked n).map UInt64.ofNat = if n ≤ maxMillis then some (UInt64.ofNat n) else none := by
  have hmax : n ≤ maxMillis ↔ n < UInt64.size := Nat.lt_succ_iff.symm
  unfold checked
  rw [if_congr hmax rfl rfl]
  split
  · rfl
  · rfl

private theorem number?_eq (cs : List Char) : number? cs = checked (denoted cs) := by
  induction cs using List.reverseRecOn with
  | nil => rfl
  | append_singleton cs c ih =>
    unfold number? at ih ⊢
    rw [List.foldlM_append, ih, denoted_append, denoted_singleton, List.length_singleton, Nat.pow_one]
    have htens := checked_bind (f := fun n => n * 10 + digit c) (fun n => by omega) (denoted cs)
    have hone (n : Nat) := checked_bind (f := fun n => n + digit c) (fun n => by omega) (n * 10)
    simpa [List.foldlM_cons, List.foldlM_nil, hone] using htens

private theorem place_eq (hdigit : c.isDigit = true) (hi : i ≤ 2) (hroom : n + 10 ^ (3 - i) ≤ 1000) :
    place n (c, i) = .ok (n + digit c * 10 ^ (2 - i)) := by
  obtain ⟨hlow, -⟩ := toNat_bounds hdigit
  have hlt := digit_lt hdigit
  have hpow : 10 ^ (3 - i) = 10 * 10 ^ (2 - i) := by
    rw [← Nat.pow_succ', Nat.succ_eq_add_one, show 2 - i + 1 = 3 - i by omega]
  have hworth : 0 < 10 ^ (2 - i) := Nat.pow_pos (by decide)
  have hshare : digit c * 10 ^ (2 - i) < 10 ^ (3 - i) := by
    rw [hpow]
    exact Nat.mul_lt_mul_of_pos_right hlt hworth
  have hvalue : (c.toNat : Int) - 48 = digit c := by
    unfold digit
    omega
  have hpower : (2 : Int) - i = (2 - i : ℕ) := by omega
  have hworths : (10 : Int) ^ (2 - i) = (10 ^ (2 - i) : ℕ) := (Nat.cast_pow 10 (2 - i)).symm
  rw [place, exact_bind hvalue (by omega), exact_bind hpower (by omega), exact_bind hworths (by omega),
    exact_bind (Nat.cast_mul _ _).symm (by omega)]
  exact exact_eq (Nat.cast_add _ _).symm (by omega)

private theorem foldlM_place (hdigits : ∀ c ∈ cs, c.isDigit = true) (hi : cs.length + i ≤ 3)
    (hroom : n + 10 ^ (3 - i) ≤ 1000) :
    (cs.zipIdx i).foldlM place n = .ok (n + denoted cs * 10 ^ (3 - i - cs.length)) := by
  induction cs generalizing i n with
  | nil => simp [denoted, pure, Except.pure]
  | cons c cs ih =>
    have hdigit := hdigits c List.mem_cons_self
    rw [List.length_cons] at hi
    have hlt := digit_lt hdigit
    have hpow : 10 ^ (3 - i) = 10 * 10 ^ (2 - i) := by
      rw [← Nat.pow_succ', Nat.succ_eq_add_one, show 2 - i + 1 = 3 - i by omega]
    have hnext : n + digit c * 10 ^ (2 - i) + 10 ^ (3 - (i + 1)) ≤ 1000 := by
      have hshare : (digit c + 1) * 10 ^ (2 - i) ≤ 10 * 10 ^ (2 - i) := Nat.mul_le_mul_right _ hlt
      rw [show 3 - (i + 1) = 2 - i by omega]
      linarith
    rw [List.zipIdx_cons, List.foldlM_cons, place_eq hdigit (by omega) hroom]
    simp only [bind, Except.bind]
    rw [ih (fun d hd => hdigits d (List.mem_cons_of_mem _ hd)) (by omega) hnext, denoted_cons, List.length_cons,
      show 3 - (i + 1) - cs.length = 3 - i - (cs.length + 1) by omega, Nat.add_mul, Nat.mul_assoc, ← Nat.pow_add,
      show cs.length + (3 - i - (cs.length + 1)) = 2 - i by omega, Nat.add_assoc]

private theorem millis_eq (h : ∀ c ∈ fs, c.isDigit = true) : millis fs = .ok (thousandths fs) := by
  have hpad : (fs ++ List.replicate 3 '0').take 3 = fs.take 3 ++ List.replicate (3 - (fs.take 3).length) '0' := by
    rw [List.take_append, List.take_replicate, List.length_take]
    congr 2
    omega
  have hlength : (fs.take 3).length + 0 ≤ 3 := List.length_take_le 3 fs
  rw [millis, foldlM_place (fun c hc => h c (List.mem_of_mem_take hc)) hlength (by decide), thousandths, hpad,
    denoted_append, denoted_zeros, List.length_replicate, Nat.zero_add, Nat.add_zero, Nat.sub_zero]

private theorem decimalSeconds_eq (text : String) : decimalSeconds text = .ok (decimalSeconds? text) := by
  rw [decimalSeconds?_eq]
  unfold decimalSeconds
  generalize parts text.toList = p
  obtain ⟨whole, fraction⟩ := p
  dsimp only
  by_cases hwhole : whole.isEmpty = true ∨ ¬ whole.all Char.isDigit = true
  · rw [if_pos hwhole, digits?, if_pos hwhole]
    rfl
  have hdenoted : digits? whole = some (denoted whole) := by
    obtain ⟨hempty, hall⟩ := not_or.mp hwhole
    refine digits?_eq_some_iff.mpr ⟨⟨fun h => hempty (List.isEmpty_iff.mpr h), ?_⟩, rfl⟩
    exact List.all_eq_true.mp (not_not.mp hall)
  rw [if_neg hwhole, hdenoted, Option.bind_some, number?_eq]
  by_cases hfraction : fraction.all Char.isDigit = true
  · have hmillis := millis_eq (List.all_eq_true.mp hfraction)
    have htotal := checked_bind (f := fun n => n * 1000 + thousandths fraction) (fun n => by omega) (denoted whole)
    rw [if_neg (not_not.mpr hfraction), if_pos hfraction, Nat.mul_comm 1000, ← map_checked, ← htotal]
    cases checked (denoted whole) with
    | none => rfl
    | some seconds =>
      have hsum := checked_bind (f := fun n => n + thousandths fraction) (fun n => by omega) (seconds * 1000)
      rw [hmillis, Option.bind_some, ← hsum]
      rfl
  · rw [if_pos hfraction, if_neg hfraction]

end Stepwise

/-- Decimal seconds are read exactly. The text has to write a time, of any length; what it denotes is cut off behind its
thousandths, and is read if 64 bits have room for it. Nothing goes over on the way, wherever the end would be. -/
theorem decimalSeconds?_exact (text : String) :
    (∀ m, decimalSeconds? text = some m ↔ ∃ q, WritesSeconds text.toList q ∧ ⌊1000 * q⌋₊ = m.toNat) ∧
      (decimalSeconds? text = none ↔ ∀ q, WritesSeconds text.toList q → maxMillis < ⌊1000 * q⌋₊) ∧
        Stepwise.decimalSeconds text = .ok (decimalSeconds? text) :=
  ⟨fun _ => decimalSeconds?_eq_some_iff, decimalSeconds?_eq_none_iff, Stepwise.decimalSeconds_eq text⟩

example : decimalSeconds? "18446744073709551.6159" = some 18446744073709551615 ∧
    decimalSeconds? "18446744073709551.616" = none := by decide

end AccountSync.Http
