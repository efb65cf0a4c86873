import AccountSync.Text.Decimal
import Mathlib.Data.Nat.Digits.Lemmas

/-!
What decimal text denotes. A run of digits stands for the sum of its digits by their places (`denoted`). Main
statements: `digits?_eq_some_iff` and `word?_eq_some_iff`, which texts are read as numbers, and as which.
-/

set_option autoImplicit false
set_option relaxedAutoImplicit false

namespace AccountSync.Text.Decimal

def digit (c : Char) : Nat := c.toNat - 48

/-- The number that digits denote, the last of them being the ones. -/
def denoted (cs : List Char) : Nat := Nat.ofDigits 10 (cs.map digit).reverse

structure Run (cs : List Char) : Prop where
  nonempty : cs ≠ []
  digits : ∀ c ∈ cs, c.isDigit = true

/-- A text that writes a number: digits, and perhaps a plus sign before them. -/
inductive Writes : List Char → Nat → Prop
  | plain {cs : List Char} : Run cs → Writes cs (denoted cs)
  | signed {cs : List Char} : Run cs → Writes ('+' :: cs) (denoted cs)

variable {c : Char} {cs ds : List Char} {n : Nat} {text : String}

theorem toNat_bounds (h : c.isDigit = true) : 48 ≤ c.toNat ∧ c.toNat ≤ 57 := by
  simpa [Char.isDigit, UInt32.le_iff_toNat_le] using h

theorem digit_lt (h : c.isDigit = true) : digit c < 10 := by
  have hbounds := toNat_bounds h
  unfold digit
  omega

theorem denoted_append (cs ds : List Char) : denoted (cs ++ ds) = denoted cs * 10 ^ ds.length + denoted ds := by
  unfold denoted
  rw [List.map_append, List.reverse_append, Nat.ofDigits_append, List.length_reverse, List.length_map, Nat.mul_comm,
    Nat.add_comm]

theorem denoted_singleton (c : Char) : denoted [c] = digit c := Nat.ofDigits_singleton

theorem denoted_cons (c : Char) (cs : List Char) : denoted (c :: cs) = digit c * 10 ^ cs.length + denoted cs := by
  rw [← List.singleton_append, denoted_append, denoted_singleton]

theorem denoted_zeros (n : Nat) : denoted (List.replicate n '0') = 0 := by
  induction n with
  | zero => rfl
  | succ n ih => rw [List.replicate_succ, denoted_cons, ih, show digit '0' = 0 from rfl, Nat.zero_mul]

theorem denoted_lt (h : ∀ c ∈ cs, c.isDigit = true) : denoted cs < 10 ^ cs.length := by
  have hdigits : ∀ d ∈ (cs.map digit).reverse, d < 10 := by
    intro d hd
    obtain ⟨c, hc, rfl⟩ := List.mem_map.mp (List.mem_reverse.mp hd)
    exact digit_lt (h c hc)
  have hlt := Nat.ofDigits_lt_base_pow_length (by decide) hdigits
  rwa [List.length_reverse, List.length_map] at hlt

theorem foldl_digits (cs : List Char) (n : Nat) :
    cs.foldl (fun n c => 10 * n + (c.toNat - 48)) n = n * 10 ^ cs.length + denoted cs := by
  induction cs generalizing n with
  | nil => exact (Nat.mul_one n).symm
  | cons c cs ih =>
    rw [List.foldl_cons, ih, denoted_cons, List.length_cons, Nat.pow_succ, digit]
    ring

theorem digits?_eq_some_iff : digits? cs = some n ↔ Run cs ∧ denoted cs = n := by
  have hfold := foldl_digits cs 0
  rw [Nat.zero_mul, Nat.zero_add] at hfold
  unfold digits?
  rw [hfold]
  by_cases hrun : Run cs
  · have hread : ¬ (cs.isEmpty = true ∨ ¬ cs.all Char.isDigit = true) := by
      rintro (hempty | hall)
      · exact hrun.nonempty (List.isEmpty_iff.mp hempty)
      · exact hall (List.all_eq_true.mpr hrun.digits)
    rw [if_neg hread, Option.some_inj]
    exact ⟨fun h => ⟨hrun, h⟩, And.right⟩
  · have hunread : cs.isEmpty = true ∨ ¬ cs.all Char.isDigit = true := by
      by_contra hread
      obtain ⟨hempty, hall⟩ := not_or.mp hread
      exact hrun ⟨fun h => hempty (List.isEmpty_iff.mpr h), List.all_eq_true.mp (not_not.mp hall)⟩
    rw [if_pos hunread]
    exact iff_of_false nofun fun h => hrun h.1

private theorem not_run_of_plus : ¬ Run ('+' :: cs) := fun h => Bool.false_ne_true (h.digits '+' List.mem_cons_self)

/-- Whole numbers below a bound are read from digits and nothing else but a plus sign before them. -/
theorem natural?_eq_some_iff {bound : Nat} : natural? bound text = some n ↔ Writes text.toList n ∧ n < bound := by
  unfold natural?
  dsimp only
  rw [Option.filter_eq_some_iff, decide_eq_true_eq]
  refine and_congr_left fun _ => ?_
  split
  · rename_i cs htext
    rw [htext, digits?_eq_some_iff]
    constructor
    · rintro ⟨hrun, rfl⟩
      exact .signed hrun
    · intro h
      cases h with
      | plain hrun => exact (not_run_of_plus hrun).elim
      | signed hrun => exact ⟨hrun, rfl⟩
  · rename_i cs hplus
    rw [digits?_eq_some_iff]
    constructor
    · rintro ⟨hrun, rfl⟩
      exact .plain hrun
    · intro h
      generalize text.toList = cs at h hplus
      cases h with
      | plain hrun => exact ⟨hrun, rfl⟩
      | signed hrun => exact (hplus _ rfl).elim

theorem word?_eq_some_iff : word? text = some n ↔ Writes text.toList n ∧ n < UInt64.size := natural?_eq_some_iff

/-! ### Whole numbers as text -/

private theorem isDigit_of_mem_toDigits (h : c ∈ Nat.toDigits 10 n) : c.isDigit = true :=
  Nat.isDigit_of_mem_toDigits (by decide) (by decide) h

theorem toList_toString_negSucc (n : Nat) : (toString (Int.negSucc n)).toList = '-' :: Nat.toDigits 10 (n + 1) := by
  change ("-" ++ (n + 1).repr).toList = _
  rw [String.toList_append, Nat.toList_repr]
  rfl

end AccountSync.Text.Decimal
