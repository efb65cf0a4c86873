import AccountSync.Http.Date
import AccountSync.Proofs.Calendar
import Mathlib.Tactic.IntervalCases

/-!
Dates in HTTP headers as they are written. Each form of an instant is read by its own grammar, and by no other
(`ofMail?_fixdate`, `ofWeekday?_full`, `ofClock?_clock` and the lemmas beside them). Main statement:
`written_date_read`, that a written date is read as its instant exactly if it has the right weekday.
-/

set_option autoImplicit false
set_option relaxedAutoImplicit false

namespace AccountSync.Http.Date

open Calendar

/-- The forms of a date: with a four-digit year and a zone, with a full weekday and a two-digit year, and as a clock
shows it. -/
inductive Form
  | fixdate
  | full
  | clock

def two (n : Nat) : List Char := [Nat.digitChar (n / 10), Nat.digitChar (n % 10)]

def four (n : Nat) : List Char := two (n / 100) ++ two (n % 100)

def padded (n : Nat) : List Char := if n < 10 then [' ', Nat.digitChar n] else two n

def shortName (w : Weekday) : List Char := w.name.toList.take 3

def monthName (month : Nat) : List Char := (monthNames[month - 1]?.getD "").toList

/-- The time of day so many seconds after midnight, and what is written behind it. -/
def timeBefore (rest : List Char) (n : Nat) : List Char :=
  two (n / 3600) ++ ':' :: (two (n / 60 % 60) ++ ':' :: (two (n % 60) ++ rest))

/-- A time of a day with the name of a weekday, as the form writes it. -/
def Form.characters (w : Weekday) (d : Date) (n : Nat) : Form → List Char
  | .fixdate => shortName w ++ ',' :: ' ' :: (two d.day ++ ' ' :: (monthName d.month ++ ' ' ::
      (four d.year.toNat ++ ' ' :: timeBefore [' ', 'G', 'M', 'T'] n)))
  | .full => w.name.toList ++ ',' :: ' ' :: (two d.day ++ '-' :: (monthName d.month ++ '-' ::
      (two (d.year.toNat % 100) ++ ' ' :: timeBefore [' ', 'G', 'M', 'T'] n)))
  | .clock => shortName w ++ ' ' :: (monthName d.month ++ ' ' :: (padded d.day ++ ' ' ::
      timeBefore (' ' :: four d.year.toNat) n))

/-- The text of an instant, so many seconds after the beginning of 1970, with the name of a weekday. -/
def Form.write (form : Form) (w : Weekday) (n : Nat) : String :=
  String.ofList (form.characters w (Date.ofEpoch (n / 86400)) (n % 86400))

variable {ds rest cs : List Char} {n m least : Nat} {most : Option Nat} {w : Weekday} {d : Date}

/-! ### Numbers -/

def value (ds : List Char) : Nat := ds.foldl (fun n c => 10 * n + (c.toNat - 48)) 0

private theorem isBlank_digitChar (h : n < 10) : Text.isBlank (Nat.digitChar n) = false := by
  have hall : ∀ n < 10, Text.isBlank (Nat.digitChar n) = false := by decide
  exact hall n h

private theorem isDigit_of_mem_two (h : n < 100) : ∀ c ∈ two n, c.isDigit = true := by
  intro c hc
  rcases List.mem_cons.mp hc with rfl | hc
  · exact Nat.isDigit_digitChar.trans (decide_eq_true (by omega))
  · rw [List.mem_singleton.mp hc]
    exact Nat.isDigit_digitChar.trans (decide_eq_true (by omega))

private theorem value_append_two (ds : List Char) (h : n < 100) : value (ds ++ two n) = 100 * value ds + n := by
  simp only [value, two, List.foldl_append, List.foldl_cons, List.foldl_nil]
  rw [Nat.toNat_digitChar_of_lt_ten (by omega), Nat.toNat_digitChar_of_lt_ten (by omega)]
  omega

private theorem value_two (h : n < 100) : value (two n) = n := (value_append_two [] h).trans (Nat.zero_add n)

private theorem isDigit_of_mem_four (h : n < 10000) : ∀ c ∈ four n, c.isDigit = true := by
  intro c hc
  rcases List.mem_append.mp hc with hc | hc
  · exact isDigit_of_mem_two (by omega) c hc
  · exact isDigit_of_mem_two (by omega) c hc

private theorem value_four (h : n < 10000) : value (four n) = n := by
  rw [four, value_append_two _ (by omega), value_two (by omega)]
  omega

private theorem length_two (n : Nat) : (two n).length = 2 := rfl

private theorem length_four (n : Nat) : (four n).length = 4 := rfl

private theorem number_append {length : Nat} (hds : ∀ c ∈ ds, c.isDigit = true) (hlength : ds.length = length)
    (hleast : least ≤ length) (hmost : most = some length ∨ most = none ∧ rest.takeWhile Char.isDigit = []) :
    number least most (ds ++ rest) = some (value ds, rest) := by
  subst hlength
  have htake : (ds ++ rest).takeWhile Char.isDigit = ds ++ rest.takeWhile Char.isDigit :=
    List.takeWhile_append_of_pos hds
  have hread : most.elim (ds ++ rest.takeWhile Char.isDigit) (ds ++ rest.takeWhile Char.isDigit).take = ds := by
    rcases hmost with rfl | ⟨rfl, hrest⟩
    · exact List.take_left
    · rw [Option.elim_none, hrest, List.append_nil]
  unfold number
  simp only [htake, hread, if_neg (Nat.not_lt.mpr hleast), List.drop_left, value]

private theorem number_two (h : n < 100) (hleast : least ≤ 2) :
    number least (some 2) (two n ++ rest) = some (n, rest) := by
  rw [number_append (isDigit_of_mem_two h) (length_two n) hleast (.inl rfl), value_two h]

private theorem trimStart_of_not {c : Char} (h : Text.isBlank c = false) : Text.trimStart (c :: cs) = c :: cs :=
  List.dropWhile_cons_of_neg (by rw [h]; exact Bool.false_ne_true)

private theorem trimStart_space : Text.trimStart (' ' :: cs) = Text.trimStart cs := rfl

private theorem trimStart_two (h : n < 100) : Text.trimStart (two n ++ rest) = two n ++ rest :=
  trimStart_of_not (isBlank_digitChar (by omega))

private theorem trimStart_four (h : n < 10000) : Text.trimStart (four n ++ rest) = four n ++ rest :=
  trimStart_of_not (isBlank_digitChar (by omega))

private theorem number_trimmed {ds' : List Char} (htrim : Text.trimStart cs = ds') {r : Option (Nat × List Char)}
    (h : number least most ds' = r) : number least most (Text.trimStart cs) = r := by
  rw [htrim]
  exact h

private theorem blanks_space (h : Text.trimStart cs = cs) : blanks (' ' :: cs) = some cs := congrArg some h

private theorem small_two (h : n < 100) : small (two n ++ rest) = some (n, rest) := by
  rw [small, trimStart_two h, number_two h (by decide)]

private theorem small_space : small (' ' :: cs) = small cs := rfl

/-- A day in two places is read, whether its first place is blank or not. -/
theorem small_padded (h : n < 100) : small (padded n ++ ' ' :: rest) = some (n, ' ' :: rest) := by
  unfold padded
  by_cases hone : n < 10
  · rw [if_pos hone]
    change small (' ' :: Nat.digitChar n :: ' ' :: rest) = _
    rw [small_space, small, trimStart_of_not (isBlank_digitChar hone)]
    have hdigit : (Nat.digitChar n).isDigit = true := Nat.isDigit_digitChar.trans (decide_eq_true hone)
    have hvalue : (Nat.digitChar n).toNat - 48 = n := by
      rw [Nat.toNat_digitChar_of_lt_ten hone]
      omega
    simp [number, hdigit, hvalue]
  · rw [if_neg hone, small_two h]

private theorem mailYear_four (h : n < 10000) : mailYear (four n ++ ' ' :: rest) = some ((n : Int), ' ' :: rest) := by
  have hread : number 2 none (four n ++ ' ' :: rest) = some (n, ' ' :: rest) := by
    rw [number_append (isDigit_of_mem_four h) (length_four n) (by decide) (.inr ⟨rfl, rfl⟩), value_four h]
  have hlength : (four n ++ ' ' :: rest).length - (' ' :: rest).length = 4 := by
    rw [List.length_append, Nat.add_sub_cancel, length_four]
  unfold mailYear
  rw [hread]
  simp only [Option.bind_eq_bind, Option.bind_some, hlength]
  rfl

private theorem signedYear_four (h : n < 10000) : signedYear (' ' :: four n) = some ((n : Int), []) := by
  have hread : number 1 (some 4) (four n ++ []) = some (n, []) := by
    rw [number_append (isDigit_of_mem_four h) (length_four n) (by decide) (.inl rfl), value_four h]
  have hfour : Text.trimStart (four n ++ []) = four n ++ [] := trimStart_four h
  have htrim : Text.trimStart (' ' :: four n) = four n ++ [] := by rw [trimStart_space, ← hfour, List.append_nil]
  have hsign {c : Char} {cs : List Char} (hc : c.isDigit = false) : four n ++ [] ≠ c :: cs := by
    intro he
    have hmem : c ∈ four n := by
      rw [← List.append_nil (four n), he]
      exact List.mem_cons_self
    rw [isDigit_of_mem_four h c hmem] at hc
    cases hc
  unfold signedYear
  rw [htrim]
  split
  · rename_i he
    exact (hsign (by decide) he).elim
  · rename_i he
    exact (hsign (by decide) he).elim
  · rw [hread]
    rfl

/-! ### Names -/

private theorem shortWeekday_append (w : Weekday) (rest : List Char) :
    shortWeekday (shortName w ++ rest) = some (w, rest) := by
  cases w <;> rfl

private theorem longWeekday_append (w : Weekday) (rest : List Char) :
    longWeekday (w.name.toList ++ rest) = some (w, rest) := by
  cases w <;> rfl

private theorem month_append (hfirst : 1 ≤ m) (hlast : m ≤ 12) (rest : List Char) :
    month (monthName m ++ rest) = some (m, rest) := by
  interval_cases m <;> rfl

private theorem trimStart_monthName (hfirst : 1 ≤ m) (hlast : m ≤ 12) (rest : List Char) :
    Text.trimStart (monthName m ++ rest) = monthName m ++ rest := by
  interval_cases m <;> rfl

private theorem month_trimmed (hfirst : 1 ≤ m) (hlast : m ≤ 12) :
    month (Text.trimStart (' ' :: (monthName m ++ rest))) = some (m, rest) := by
  rw [trimStart_space, trimStart_monthName hfirst hlast]
  exact month_append hfirst hlast rest

private theorem trimStart_shortName (w : Weekday) (rest : List Char) :
    Text.trimStart (shortName w ++ rest) = shortName w ++ rest := by
  cases w <;> rfl

private theorem literal_comma : literal "," (',' :: cs) = some cs := rfl

private theorem literal_dash : literal "-" ('-' :: cs) = some cs := rfl

private theorem literal_colon : literal ":" (':' :: cs) = some cs := rfl

private theorem clockTime_timeBefore (h : n < 86400) :
    clockTime (timeBefore rest n) = some ((n / 3600, n / 60 % 60, n % 60), rest) := by
  unfold clockTime timeBefore
  rw [small_two (by omega)]
  simp only [Option.bind_eq_bind, Option.bind_some, literal_colon]
  rw [small_two (by omega)]
  simp only [Option.bind_some, literal_colon]
  rw [small_two (by omega)]
  rfl

/-! ### Each form by its own grammar -/

/-- A day in a year that two digits tell. -/
structure Tellable (d : Date) : Prop extends d.Regular where
  year : 1970 ≤ d.year ∧ d.year < 2070

private theorem Tellable.day_lt (hd : Tellable d) : d.day < 100 := by
  have hend := hd.day.2
  have hle := daysInMonth_le d.year d.month
  omega

private theorem Tellable.year_lt (hd : Tellable d) : d.year.toNat < 10000 := by
  have hyear := hd.year
  omega

private theorem Tellable.toNat_year (hd : Tellable d) : (d.year.toNat : Int) = d.year := Int.toNat_of_nonneg (by
  have hyear := hd.year
  omega)

private theorem bind_of_eq {α β : Type} {o : Option α} {a : α} {f : α → Option β} {r : Option β} (ho : o = some a)
    (hf : f a = r) : (o >>= f) = r := by
  rw [ho]
  exact hf

theorem ofMail?_fixdate (hd : Tellable d) (h : n < 86400) : ofMail? (Form.fixdate.characters w d n) =
    some ⟨some w, d, n / 3600, n / 60 % 60, n % 60, 0⟩ := by
  obtain ⟨hfirst, hlast⟩ := hd.month
  have hhour : n / 3600 < 100 := by omega
  have hminute : n / 60 % 60 < 100 := by omega
  have hsecond : n % 60 < 100 := by omega
  unfold ofMail? Form.characters timeBefore
  dsimp only
  rw [trimStart_shortName, shortWeekday_append]
  refine bind_of_eq (congrArg _ literal_comma) ?_
  refine bind_of_eq (number_trimmed (trimStart_two hd.day_lt) (number_two hd.day_lt (by decide))) ?_
  refine bind_of_eq (blanks_space (trimStart_monthName hfirst hlast _)) ?_
  refine bind_of_eq (month_append hfirst hlast _) ?_
  refine bind_of_eq (blanks_space (trimStart_four hd.year_lt)) ?_
  refine bind_of_eq (mailYear_four hd.year_lt) ?_
  refine bind_of_eq (blanks_space (trimStart_two hhour)) ?_
  refine bind_of_eq (number_two hhour (by decide)) ?_
  refine bind_of_eq literal_colon ?_
  refine bind_of_eq (number_trimmed (trimStart_two hminute) (number_two hminute (by decide))) ?_
  refine bind_of_eq (number_two hsecond (by decide)) ?_
  refine bind_of_eq (blanks_space rfl) ?_
  refine bind_of_eq (show zone ['G', 'M', 'T'] = some (0, []) from rfl) ?_
  rw [hd.toNat_year]
  rfl

theorem ofWeekday?_full (hd : Tellable d) (h : n < 86400) : ofWeekday? (Form.full.characters w d n) =
    some ⟨some w, d, n / 3600, n / 60 % 60, n % 60, 0⟩ := by
  obtain ⟨hfirst, hlast⟩ := hd.month
  have hcentury : d.year.toNat % 100 < 100 := by omega
  have hyear : (if d.year.toNat % 100 < 70 then (2000 : Int) + (d.year.toNat % 100 : Nat)
      else 1900 + (d.year.toNat % 100 : Nat)) = d.year := by
    have hrange := hd.year
    split <;> omega
  unfold ofWeekday? Form.characters
  refine bind_of_eq (longWeekday_append w _) ?_
  refine bind_of_eq literal_comma ?_
  refine bind_of_eq (small_two hd.day_lt) ?_
  refine bind_of_eq literal_dash ?_
  refine bind_of_eq (month_append hfirst hlast _) ?_
  refine bind_of_eq literal_dash ?_
  refine bind_of_eq (small_two hcentury) ?_
  refine bind_of_eq (clockTime_timeBefore h) ?_
  refine bind_of_eq (show literal "GMT" ['G', 'M', 'T'] = some [] from rfl) ?_
  rw [hyear]
  rfl

theorem ofClock?_clock (hd : Tellable d) (h : n < 86400) : ofClock? (Form.clock.characters w d n) =
    some ⟨some w, d, n / 3600, n / 60 % 60, n % 60, 0⟩ := by
  obtain ⟨hfirst, hlast⟩ := hd.month
  unfold ofClock? Form.characters
  refine bind_of_eq (shortWeekday_append w _) ?_
  refine bind_of_eq (month_trimmed hfirst hlast) ?_
  refine bind_of_eq (small_space.trans (small_padded hd.day_lt)) ?_
  refine bind_of_eq (clockTime_timeBefore h) ?_
  refine bind_of_eq (signedYear_four hd.year_lt) ?_
  rw [hd.toNat_year]
  rfl

/-! ### No form by another grammar -/

private theorem ofMail?_full (w : Weekday) (rest : List Char) : ofMail? (w.name.toList ++ rest) = none := by
  cases w <;> rfl

private theorem ofMail?_clock (w : Weekday) (rest : List Char) : ofMail? (shortName w ++ ' ' :: rest) = none := by
  cases w <;> rfl

private theorem ofWeekday?_fixdate (h : n < 100) :
    ofWeekday? (shortName w ++ ',' :: ' ' :: (two n ++ ' ' :: rest)) = none := by
  have hweekday : longWeekday (shortName w ++ ',' :: ' ' :: (two n ++ ' ' :: rest)) =
      some (w, ',' :: ' ' :: (two n ++ ' ' :: rest)) := by cases w <;> rfl
  unfold ofWeekday?
  refine bind_of_eq hweekday ?_
  refine bind_of_eq literal_comma ?_
  exact bind_of_eq (small_two h) rfl

private theorem ofWeekday?_clock (w : Weekday) (rest : List Char) : ofWeekday? (shortName w ++ ' ' :: rest) = none := by
  cases w <;> rfl

private theorem ofClock?_fixdate (w : Weekday) (rest : List Char) : ofClock? (shortName w ++ ',' :: rest) = none := by
  cases w <;> rfl

private theorem ofClock?_full (w : Weekday) (rest : List Char) : ofClock? (w.name.toList ++ ',' :: rest) = none := by
  cases w <;> rfl

/-! ### Instants -/

private theorem tellable_ofEpoch {k : Nat} (h : (Date.ofEpoch k).year < 2070) : Tellable (Date.ofEpoch k) :=
  ⟨Date.regular_ofEpoch k, Date.le_year_ofEpoch k, h⟩

private theorem millis?_moment {k : Nat} (hyear : (Date.ofEpoch k).year < 2070) (h : n < 86400) (w : Weekday) :
    Moment.millis? ⟨some w, Date.ofEpoch k, n / 3600, n / 60 % 60, n % 60, 0⟩ =
      if w = Weekday.ofEpoch k then some (1000 * (86400 * (k : Int) + n)) else none := by
  have hreading : (86400 * k + 3600 * (n / 3600 : Nat) + 60 * (n / 60 % 60 : Nat) + (n % 60 : Nat) : Int) - 0 =
      86400 * k + n := by omega
  have hbound := Date.lt_of_year_lt hyear
  have hlow : 86400 * Date.dayNumber ⟨-262143, 1, 1⟩ ≤ 0 := by decide
  have hhigh : (366 * (2070 - 1970) + 400 : Int) < Date.dayNumber ⟨262142, 12, 31⟩ := by decide
  unfold Moment.millis?
  dsimp only
  rw [Date.dayNumber_ofEpoch, weekdayOf_ofEpoch, hreading]
  by_cases hw : w = Weekday.ofEpoch k
  · have hsixty : n % 60 ≠ 60 := by omega
    rw [if_pos hw, if_pos, Option.some_inj]
    refine ⟨Date.isValid_ofEpoch hyear, by omega, by omega, by omega, by decide, by decide, ?_, by omega, ?_⟩
    · exact decide_eq_true hw
    · rw [if_neg hsixty]
      omega
  · rw [if_neg hw, if_neg]
    rintro ⟨-, -, -, -, -, -, hweekday, -⟩
    exact hw (of_decide_eq_true hweekday)

/-- While two digits tell the year, an instant is read from each of its forms with the right weekday, and a form with
any other weekday is not read at all. -/
theorem written_date_read (n : Nat) (hyear : (Date.ofEpoch (n / 86400)).year < 2070) (form : Form) (w : Weekday) :
    millis? (form.write w n) = if w = Weekday.ofEpoch (n / 86400) then some (1000 * (n : Int)) else none := by
  have hd := tellable_ofEpoch hyear
  have hn : n % 86400 < 86400 := Nat.mod_lt n (by decide)
  have hmoment := millis?_moment hyear hn w
  have hinstant : (86400 * (n / 86400 : Nat) + (n % 86400 : Nat) : Int) = n := by omega
  rw [hinstant] at hmoment
  unfold millis? Form.write
  rw [String.toList_ofList, ← hmoment]
  dsimp only
  cases form with
  | fixdate =>
    have hfull : ofWeekday? (Form.fixdate.characters w (Date.ofEpoch (n / 86400)) (n % 86400)) = none :=
      ofWeekday?_fixdate hd.day_lt
    have hclock : ofClock? (Form.fixdate.characters w (Date.ofEpoch (n / 86400)) (n % 86400)) = none :=
      ofClock?_fixdate w _
    rw [ofMail?_fixdate hd hn, hfull, hclock]
    simp only [Option.bind_some, Option.bind_none, Option.orElse_eq_orElse, Option.orElse_eq_or, Option.or_none]
  | full =>
    have hmail : ofMail? (Form.full.characters w (Date.ofEpoch (n / 86400)) (n % 86400)) = none := ofMail?_full w _
    have hclock : ofClock? (Form.full.characters w (Date.ofEpoch (n / 86400)) (n % 86400)) = none := ofClock?_full w _
    rw [hmail, ofWeekday?_full hd hn, hclock]
    simp only [Option.bind_some, Option.bind_none, Option.orElse_eq_orElse, Option.orElse_eq_or, Option.or_none,
      Option.none_or]
  | clock =>
    have hmail : ofMail? (Form.clock.characters w (Date.ofEpoch (n / 86400)) (n % 86400)) = none := ofMail?_clock w _
    have hfull : ofWeekday? (Form.clock.characters w (Date.ofEpoch (n / 86400)) (n % 86400)) = none :=
      ofWeekday?_clock w _
    rw [hmail, hfull, ofClock?_clock hd hn]
    rfl

/-- The last second of a leap day. -/
theorem written_date_read_leapDay : (Date.ofEpoch (68255999 / 86400)).year < 2070 ∧
    (∀ form : Form, millis? (form.write .tuesday 68255999) = some 68255999000) ∧
    ∀ (form : Form) (w : Weekday), w ≠ .tuesday → millis? (form.write w 68255999) = none := by
  have hyear : (Date.ofEpoch (68255999 / 86400)).year < 2070 := by decide +kernel
  have htuesday : Weekday.ofEpoch (68255999 / 86400) = .tuesday := by decide +kernel
  have hread := written_date_read 68255999 hyear
  rw [htuesday] at hread
  refine ⟨hyear, fun form => ?_, fun form w hw => ?_⟩
  · rw [hread, if_pos rfl]
    rfl
  · rw [hread, if_neg hw]

example : [Form.fixdate, .full, .clock].map (·.write .tuesday 65790245) =
    ["Tue, 01 Feb 1972 11:04:05 GMT", "Tuesday, 01-Feb-72 11:04:05 GMT", "Tue Feb  1 11:04:05 1972"] := by
  decide +kernel

end AccountSync.Http.Date
