/-!
Instants are milliseconds since the epoch in 64 bits, lengths of time are milliseconds without a bound.
Adding a length to an instant stops at the greatest instant.
-/

set_option autoImplicit false
set_option relaxedAutoImplicit false

namespace AccountSync

/-- Milliseconds since the epoch. -/
abbrev Instant := UInt64

def maxMillis : Nat := UInt64.size - 1

/-- A length of time as a count of milliseconds in 64 bits. -/
def clampMillis (duration : Nat) : Nat := min duration maxMillis

/-- An instant some time after another, but never past the greatest one. -/
def after (instant : Instant) (duration : Nat) : Instant :=
  UInt64.ofNat (min (instant.toNat + duration) maxMillis)

def seconds (n : Nat) : Nat := 1000 * n

theorem toNat_after (instant : Instant) (duration : Nat) :
    (after instant duration).toNat = min (instant.toNat + duration) maxMillis := by
  unfold after
  rw [UInt64.toNat_ofNat']
  simp only [maxMillis, UInt64.size]
  omega

theorem after_zero (instant : Instant) : after instant 0 = instant := by
  rw [← UInt64.toNat_inj, toNat_after]
  have hlt := instant.toNat_lt_size
  unfold maxMillis
  omega

end AccountSync
