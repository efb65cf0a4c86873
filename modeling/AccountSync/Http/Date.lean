import AccountSync.Calendar
import AccountSync.Text.Blank

/-!
The three forms of a date in an HTTP header: with a zone and a four-digit year, with a full weekday and
a two-digit year, and as a clock shows it. Names are read in either case. A weekday has to be that of
the date, and a second may be the sixtieth.
-/

set_option autoImplicit false
set_option relaxedAutoImplicit false

namespace AccountSync.Http.Date

open Calendar

/-- A date and a time of day, how many seconds its zone is ahead, and the weekday where one is given. -/
structure Moment where
  weekday : Option Weekday
  date : Date
  hour : Nat
  minute : Nat
  second : Nat
  ahead : Int

/-- Milliseconds since the epoch, if there is such a moment. -/
def Moment.millis? (m : Moment) : Option Int :=
  let day := m.date.dayNumber
  let reading := 86400 * day + 3600 * m.hour + 60 * m.minute + m.second
  let instant := reading - m.ahead
  if m.date.isValid ∧ m.hour < 24 ∧ m.minute < 60 ∧ m.second ≤ 60 ∧ -86400 < m.ahead ∧ m.ahead < 86400
      ∧ m.weekday.all (· = weekdayOf day)
      ∧ 86400 * Date.dayNumber ⟨-262143, 1, 1⟩ ≤ instant
      ∧ instant - (if m.second = 60 then 1 else 0) < 86400 * (Date.dayNumber ⟨262142, 12, 31⟩ + 1) then
    some (1000 * instant)
  else none

/-- Reads something at the start of a text and gives what follows it. -/
abbrev Scanner (α : Type) := List Char → Option (α × List Char)

/-- A run of digits: at least so many and, if there is a bound, no more than that. -/
def number (least : Nat) (most : Option Nat) : Scanner Nat := fun cs =>
  let ds := cs.takeWhile Char.isDigit
  let ds := most.elim ds ds.take
  if ds.length < least then none
  else some (ds.foldl (fun n c => 10 * n + (c.toNat - 48)) 0, cs.drop ds.length)

def literal (text : String) (cs : List Char) : Option (List Char) :=
  if text.toList.isPrefixOf cs then some (cs.drop text.length) else none

def blanks (cs : List Char) : Option (List Char) :=
  if cs.head?.any Text.isBlank then some (Text.trimStart cs) else none

def word (name : String) (cs : List Char) : Option (List Char) :=
  if (cs.take name.length).map Char.toLower = name.toList.map Char.toLower then some (cs.drop name.length)
  else none

def month : Scanner Nat := fun cs =>
  (List.range 12).findSome? fun i =>
    monthNames[i]?.bind fun name => (word name cs).map fun rest => (i + 1, rest)

def shortWeekday : Scanner Weekday := fun cs =>
  weekdays.findSome? fun w => (word (String.ofList (w.name.toList.take 3)) cs).map fun rest => (w, rest)

/-- A weekday by three letters or by its name. -/
def longWeekday : Scanner Weekday := fun cs => do
  let (w, rest) ← shortWeekday cs
  pure (w, (word (String.ofList (w.name.toList.drop 3)) rest).getD rest)

/-- Blanks and a number of at most two digits. -/
def small : Scanner Nat := fun cs => number 1 (some 2) (Text.trimStart cs)

/-- A year: four digits at most, or a sign and any number of digits. -/
def signedYear : Scanner Int := fun cs =>
  match Text.trimStart cs with
  | '-' :: cs => (number 1 none cs).map fun p => (-Int.ofNat p.1, p.2)
  | '+' :: cs => (number 1 none cs).map fun p => (Int.ofNat p.1, p.2)
  | cs => (number 1 (some 4) cs).map fun p => (Int.ofNat p.1, p.2)

/-- A year as mail writes it: two digits stand for 1950 to 2049, three count from 1900. -/
def mailYear : Scanner Int := fun cs => do
  let (n, rest) ← number 2 none cs
  let digits := cs.length - rest.length
  let year := if digits = 2 then (if n < 50 then 2000 + n else 1900 + n) else if digits = 3 then 1900 + n else n
  pure (year, rest)

/-- The hours that named zones are ahead. -/
def zones : List (String × Int) :=
  [("gmt", 0), ("ut", 0), ("z", 0), ("edt", -4), ("est", -5), ("cdt", -5), ("cst", -6), ("mdt", -6), ("mst", -7),
    ("pdt", -7), ("pst", -8)]

/-- The seconds that a zone is ahead: by its name, any letter but `j`, or a sign, hours and minutes. -/
def zone : Scanner Int := fun cs =>
  let name := (cs.takeWhile Char.isAlpha).map Char.toLower
  let rest := cs.dropWhile Char.isAlpha
  match name with
  | [] => do
    let (sign, cs) ← match cs with
      | '+' :: cs => some ((1 : Int), cs)
      | '-' :: cs => some (-1, cs)
      | _ => none
    let (hours, cs) ← number 2 (some 2) cs
    let (minutes, cs) ← number 2 (some 2) cs
    if 60 ≤ minutes then none else some (sign * (3600 * hours + 60 * minutes), cs)
  | [c] => if c = 'j' then none else some (0, rest)
  | _ => (zones.find? fun z => z.1.toList = name).map fun z => (3600 * z.2, rest)

/-- What follows a comment, of which so many brackets are open. -/
def afterComment : Nat → List Char → Option (List Char)
  | _, [] => none
  | depth, '\\' :: _ :: rest => afterComment depth rest
  | depth, '(' :: rest => afterComment (depth + 1) rest
  | depth, ')' :: rest => if depth ≤ 1 then some rest else afterComment (depth - 1) rest
  | depth, _ :: rest => afterComment depth rest

/-- Whether a text holds nothing but comments with blanks before them; `fuel` bounds their number. -/
def onlyComments : Nat → List Char → Bool
  | _, [] => true
  | 0, _ => false
  | fuel + 1, cs =>
    match Text.trimStart cs with
    | '(' :: rest =>
      match afterComment 1 rest with
      | some rest => onlyComments fuel rest
      | none => false
    | _ => false

def ofMail? (text : List Char) : Option Moment := do
  let cs := Text.trimStart text
  let (weekday, cs) ← match shortWeekday cs with
    | some (w, cs) => (literal "," cs).map fun cs => (some w, cs)
    | none => some (none, cs)
  let (day, cs) ← number 1 (some 2) (Text.trimStart cs)
  let (month, cs) ← month (← blanks cs)
  let (year, cs) ← mailYear (← blanks cs)
  let (hour, cs) ← number 2 (some 2) (← blanks cs)
  let cs ← literal ":" (Text.trimStart cs)
  let (minute, cs) ← number 2 (some 2) (Text.trimStart cs)
  let (second, cs) ← match literal ":" (Text.trimStart cs) with
    | some cs => number 2 (some 2) cs
    | none => some (0, cs)
  let (ahead, cs) ← zone (← blanks cs)
  if onlyComments cs.length cs then
    some ⟨weekday, ⟨year, month, day⟩, hour, minute, second, ahead⟩
  else none

def clockTime : Scanner (Nat × Nat × Nat) := fun cs => do
  let (hour, cs) ← small cs
  let (minute, cs) ← small (← literal ":" cs)
  let (second, cs) ← small (← literal ":" cs)
  pure ((hour, minute, second), cs)

/-- A date with a weekday and a two-digit year, which stands for 1970 to 2069. -/
def ofWeekday? (text : List Char) : Option Moment := do
  let (weekday, cs) ← longWeekday text
  let cs ← literal "," cs
  let (day, cs) ← small cs
  let (month, cs) ← month (← literal "-" cs)
  let (year, cs) ← small (← literal "-" cs)
  let ((hour, minute, second), cs) ← clockTime cs
  let rest ← literal "GMT" (Text.trimStart cs)
  if rest.isEmpty then
    some ⟨some weekday, ⟨if year < 70 then 2000 + year else 1900 + year, month, day⟩, hour, minute, second, 0⟩
  else none

/-- A date as a clock shows it, the year last. -/
def ofClock? (text : List Char) : Option Moment := do
  let (weekday, cs) ← shortWeekday text
  let (month, cs) ← month (Text.trimStart cs)
  let (day, cs) ← small cs
  let ((hour, minute, second), cs) ← clockTime cs
  let (year, rest) ← signedYear cs
  if rest.isEmpty then some ⟨some weekday, ⟨year, month, day⟩, hour, minute, second, 0⟩ else none

/-- Reads a date in any of the three forms, as milliseconds since the epoch. -/
def millis? (text : String) : Option Int :=
  let cs := text.toList
  ((ofMail? cs).bind Moment.millis?)
    <|> ((ofWeekday? cs).bind Moment.millis?)
    <|> ((ofClock? cs).bind Moment.millis?)

end AccountSync.Http.Date
