/-!
The Gregorian calendar, carried back before its introduction and with a year zero. `Date.dayNumber` counts
days from 1 January 1970; weekdays follow from that count.
-/

set_option autoImplicit false
set_option relaxedAutoImplicit false

namespace AccountSync.Calendar

inductive Weekday
  | monday | tuesday | wednesday | thursday | friday | saturday | sunday
  deriving DecidableEq, Repr

def weekdays : List Weekday :=
  [.monday, .tuesday, .wednesday, .thursday, .friday, .saturday, .sunday]

def Weekday.name : Weekday → String
  | .monday => "Monday"
  | .tuesday => "Tuesday"
  | .wednesday => "Wednesday"
  | .thursday => "Thursday"
  | .friday => "Friday"
  | .saturday => "Saturday"
  | .sunday => "Sunday"

/-- The names of the months in order, cut to three letters. -/
def monthNames : List String :=
  ["Jan", "Feb", "Mar", "Apr", "May", "Jun", "Jul", "Aug", "Sep", "Oct", "Nov", "Dec"]

def isLeap (year : Int) : Bool :=
  year % 4 = 0 && (year % 100 ≠ 0 || year % 400 = 0)

/-- How many days a month has; months count from one. -/
def daysInMonth (year : Int) (month : Nat) : Nat :=
  match month with
  | 2 => if isLeap year then 29 else 28
  | 4 | 6 | 9 | 11 => 30
  | _ => 31

/-- How many days of a year lie before a month. -/
def daysBeforeMonth (year : Int) : Nat → Nat
  | 0 => 0
  | 1 => 0
  | month + 1 => daysBeforeMonth year month + daysInMonth year month

/-- How many days lie between the first day of year one and that of another year. -/
def daysBeforeYear (year : Int) : Int :=
  365 * (year - 1) + (year - 1) / 4 - (year - 1) / 100 + (year - 1) / 400

/-- A day of the calendar, months and days counting from one. -/
structure Date where
  year : Int
  month : Nat
  day : Nat
  deriving DecidableEq, Repr

namespace Date

/-- The years that can be told. -/
def inRange (year : Int) : Bool :=
  -262143 ≤ year && year ≤ 262142

def isValid (d : Date) : Bool :=
  inRange d.year && 1 ≤ d.month && d.month ≤ 12 && 1 ≤ d.day && d.day ≤ daysInMonth d.year d.month

/-- Days since 1 January 1970. -/
def dayNumber (d : Date) : Int :=
  daysBeforeYear d.year - daysBeforeYear 1970 + daysBeforeMonth d.year d.month + d.day - 1

end Date

/-- The weekday of a day that is given by its number; the first of all was a Thursday. -/
def weekdayOf (dayNumber : Int) : Weekday :=
  match (dayNumber + 3) % 7 with
  | 0 => .monday
  | 1 => .tuesday
  | 2 => .wednesday
  | 3 => .thursday
  | 4 => .friday
  | 5 => .saturday
  | _ => .sunday

end AccountSync.Calendar
