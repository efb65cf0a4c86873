import AccountSync.Calendar

/-!
The days of the calendar one after the other, from 1 January 1970. Main statements: `dayNumber_ofEpoch` and
`weekdayOf_ofEpoch`, that counting the days and the weekdays in this way comes to the number of the day and to its
weekday.
-/

set_option autoImplicit false
set_option relaxedAutoImplicit false

namespace AccountSync.Calendar

def Weekday.next : Weekday → Weekday
  | .monday => .tuesday
  | .tuesday => .wednesday
  | .wednesday => .thursday
  | .thursday => .friday
  | .friday => .saturday
  | .saturday => .sunday
  | .sunday => .monday

/-- The weekday so many days after a Thursday. -/
def Weekday.ofEpoch : Nat → Weekday
  | 0 => .thursday
  | k + 1 => (ofEpoch k).next

namespace Date

def next (d : Date) : Date :=
  if d.day < daysInMonth d.year d.month then ⟨d.year, d.month, d.day + 1⟩
  else if d.month < 12 then ⟨d.year, d.month + 1, 1⟩
  else ⟨d.year + 1, 1, 1⟩

/-- The day so many days after 1 January 1970. -/
def ofEpoch : Nat → Date
  | 0 => ⟨1970, 1, 1⟩
  | k + 1 => (ofEpoch k).next

structure Regular (d : Date) : Prop where
  month : 1 ≤ d.month ∧ d.month ≤ 12
  day : 1 ≤ d.day ∧ d.day ≤ daysInMonth d.year d.month

end Date

variable {d : Date} {year : Int} {k : Nat}

private theorem daysInMonth_pos (year : Int) (month : Nat) : 1 ≤ daysInMonth year month := by
  unfold daysInMonth
  split
  · split <;> omega
  all_goals omega

theorem daysInMonth_le (year : Int) (month : Nat) : daysInMonth year month ≤ 31 := by
  unfold daysInMonth
  split
  · split <;> omega
  all_goals omega

private theorem daysBeforeMonth_succ {month : Nat} (h : 1 ≤ month) :
    daysBeforeMonth year (month + 1) = daysBeforeMonth year month + daysInMonth year month := by
  obtain ⟨m, rfl⟩ := Nat.exists_eq_add_of_le' h
  rfl

private theorem daysBeforeMonth_le (year : Int) (month : Nat) : daysBeforeMonth year month ≤ 31 * month := by
  induction month with
  | zero => exact Nat.le_refl 0
  | succ m ih =>
    rcases Nat.eq_zero_or_pos m with rfl | hpos
    · exact Nat.zero_le _
    · have hle := daysInMonth_le year m
      rw [daysBeforeMonth_succ hpos]
      omega

private theorem daysBeforeMonth_december (year : Int) :
    daysBeforeMonth year 12 + 31 = if isLeap year then 366 else 365 := by
  cases h : isLeap year <;> simp [daysBeforeMonth, daysInMonth, h]

private theorem daysBeforeYear_succ (year : Int) :
    daysBeforeYear (year + 1) = daysBeforeYear year + (daysBeforeMonth year 12 + 31 : Nat) := by
  rw [daysBeforeMonth_december]
  unfold daysBeforeYear
  by_cases h : isLeap year = true
  · rw [if_pos h]
    simp only [isLeap, Bool.and_eq_true, Bool.or_eq_true, decide_eq_true_eq] at h
    omega
  · rw [if_neg h]
    simp only [isLeap, Bool.and_eq_true, Bool.or_eq_true, decide_eq_true_eq] at h
    omega

namespace Date

private theorem Regular.next (h : d.Regular) : d.next.Regular := by
  obtain ⟨⟨hmonth, hlast⟩, hday, hend⟩ := h
  unfold Date.next
  split
  · exact ⟨⟨hmonth, hlast⟩, by dsimp only; omega, by dsimp only; omega⟩
  · split
    · exact ⟨⟨by dsimp only; omega, by dsimp only; omega⟩, Nat.le_refl 1, daysInMonth_pos _ _⟩
    · exact ⟨⟨Nat.le_refl 1, (by decide : 1 ≤ 12)⟩, Nat.le_refl 1, daysInMonth_pos _ _⟩

private theorem dayNumber_next (h : d.Regular) : d.next.dayNumber = d.dayNumber + 1 := by
  obtain ⟨⟨hmonth, hlast⟩, hday, hend⟩ := h
  unfold Date.next Date.dayNumber
  by_cases hwithin : d.day < daysInMonth d.year d.month
  · rw [if_pos hwithin]
    dsimp only
    omega
  rw [if_neg hwithin]
  by_cases hmonths : d.month < 12
  · rw [if_pos hmonths]
    dsimp only
    rw [daysBeforeMonth_succ hmonth]
    omega
  · rw [if_neg hmonths]
    have hdecember : d.month = 12 := by omega
    have hthirtyOne : daysInMonth d.year 12 = 31 := rfl
    have hjanuary : daysBeforeMonth (d.year + 1) 1 = 0 := rfl
    rw [hdecember, hthirtyOne] at hend hwithin
    dsimp only
    rw [hdecember, hjanuary, daysBeforeYear_succ]
    omega

theorem regular_ofEpoch (k : Nat) : (ofEpoch k).Regular := by
  induction k with
  | zero => exact ⟨by decide, by decide⟩
  | succ k ih => exact ih.next

theorem dayNumber_ofEpoch (k : Nat) : (ofEpoch k).dayNumber = k := by
  induction k with
  | zero => rfl
  | succ k ih =>
    rw [ofEpoch, dayNumber_next (regular_ofEpoch k), ih]
    rfl

private theorem le_year_next (d : Date) : d.year ≤ d.next.year := by
  unfold Date.next
  split
  · exact Int.le_refl _
  · split
    · exact Int.le_refl _
    · exact Int.le_of_lt (Int.lt_succ d.year)

theorem le_year_ofEpoch (k : Nat) : 1970 ≤ (ofEpoch k).year := by
  induction k with
  | zero => exact Int.le_refl _
  | succ k ih => exact Int.le_trans ih (le_year_next _)

theorem lt_of_year_lt (h : (ofEpoch k).year < year) : (k : Int) < 366 * (year - 1970) + 400 := by
  have hnumber := dayNumber_ofEpoch k
  obtain ⟨⟨-, hmonth⟩, -, hday⟩ := regular_ofEpoch k
  have hfirst := le_year_ofEpoch k
  have hbefore := daysBeforeMonth_le (ofEpoch k).year (ofEpoch k).month
  have hlength := daysInMonth_le (ofEpoch k).year (ofEpoch k).month
  unfold dayNumber daysBeforeYear at hnumber
  omega

theorem isValid_ofEpoch (h : (ofEpoch k).year < 2070) : (ofEpoch k).isValid = true := by
  obtain ⟨⟨hmonth, hlast⟩, hday, hend⟩ := regular_ofEpoch k
  have hfirst := le_year_ofEpoch k
  simp only [isValid, inRange, Bool.and_eq_true, decide_eq_true_eq]
  omega

end Date

private theorem weekdayOf_succ (n : Int) : weekdayOf (n + 1) = (weekdayOf n).next := by
  have hmod : (n + 1 + 3) % 7 = ((n + 3) % 7 + 1) % 7 := by omega
  have hlow : 0 ≤ (n + 3) % 7 := Int.emod_nonneg _ (by decide)
  have hhigh : (n + 3) % 7 < 7 := Int.emod_lt_of_pos _ (by decide)
  unfold weekdayOf
  rw [hmod]
  generalize (n + 3) % 7 = r at hlow hhigh
  obtain rfl | rfl | rfl | rfl | rfl | rfl | rfl : r = 0 ∨ r = 1 ∨ r = 2 ∨ r = 3 ∨ r = 4 ∨ r = 5 ∨ r = 6 := by omega
  all_goals rfl

theorem weekdayOf_ofEpoch (k : Nat) : weekdayOf k = Weekday.ofEpoch k := by
  induction k with
  | zero => rfl
  | succ k ih =>
    rw [Int.natCast_succ, weekdayOf_succ, ih, Weekday.ofEpoch]

example : (Date.ofEpoch 789, Weekday.ofEpoch 789) = (⟨1972, 2, 29⟩, .tuesday) := by decide +kernel

end AccountSync.Calendar
